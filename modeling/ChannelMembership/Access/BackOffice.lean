import ChannelMembership.Access.Guard

/-!
# The back office

The standard channels of a content management back office and their guards.  Each section of the
back office has one policy, and its channels are governed by that policy alone; the channel of the
current user is open to every known user.
-/

namespace ChannelMembership
namespace BackOffice

/-- Documents. -/
def document : Channel := ⟨"backoffice:document"⟩
/-- Document types. -/
def documentType : Channel := ⟨"backoffice:document-type"⟩
/-- Media items. -/
def media : Channel := ⟨"backoffice:media"⟩
/-- Media types. -/
def mediaType : Channel := ⟨"backoffice:media-type"⟩
/-- Members. -/
def member : Channel := ⟨"backoffice:member"⟩
/-- Member types. -/
def memberType : Channel := ⟨"backoffice:member-type"⟩
/-- Member groups. -/
def memberGroup : Channel := ⟨"backoffice:member-group"⟩
/-- Data types. -/
def dataType : Channel := ⟨"backoffice:data-type"⟩
/-- Dictionary items. -/
def dictionaryItem : Channel := ⟨"backoffice:dictionary-item"⟩
/-- Languages. -/
def language : Channel := ⟨"backoffice:language"⟩
/-- Templates. -/
def template : Channel := ⟨"backoffice:template"⟩
/-- Partial views. -/
def partialView : Channel := ⟨"backoffice:partial-view"⟩
/-- Scripts. -/
def script : Channel := ⟨"backoffice:script"⟩
/-- Stylesheets. -/
def stylesheet : Channel := ⟨"backoffice:stylesheet"⟩
/-- Relation types. -/
def relationType : Channel := ⟨"backoffice:relation-type"⟩
/-- Users. -/
def user : Channel := ⟨"backoffice:user"⟩
/-- User groups. -/
def userGroup : Channel := ⟨"backoffice:user-group"⟩
/-- Webhooks. -/
def webhook : Channel := ⟨"backoffice:webhook"⟩
/-- The record of the connected user. -/
def currentUser : Channel := ⟨"backoffice:current-user"⟩

/-- All standard channels. -/
def channels : List Channel :=
  [document, documentType, media, mediaType, member, memberType, memberGroup, dataType,
    dictionaryItem, language, template, partialView, script, stylesheet, relationType, user,
    userGroup, webhook, currentUser]

/-- A section of the back office. -/
inductive Section where
  | content | media | members | settings | translation | users
  deriving DecidableEq

namespace Section

/-- All sections in registration order. -/
def all : List Section := [content, media, members, settings, translation, users]

/-- The policy that opens a section. -/
def policy : Section → String
  | content => "section.content"
  | media => "section.media"
  | members => "section.members"
  | settings => "section.settings"
  | translation => "section.translation"
  | users => "section.users"

/-- The channels of a section. -/
def channels : Section → List Channel
  | content => [document]
  | media => [BackOffice.media]
  | members => [member, memberGroup]
  | settings =>
    [documentType, mediaType, memberType, dataType, language, template, partialView, script,
      stylesheet, relationType, webhook]
  | translation => [dictionaryItem]
  | users => [user, userGroup]

/-- The guard of a section. -/
def toGuard (rule : PolicyRule) (office : Section) : Guard :=
  Guard.ofPolicy rule office.policy office.channels

end Section

/-- The guards of all standard channels: one per section, then the one of the current user. -/
def guards (rule : PolicyRule) : List Guard :=
  Section.all.map (Section.toGuard rule) ++ [Guard.ofSelf [currentUser]]

end BackOffice
end ChannelMembership
