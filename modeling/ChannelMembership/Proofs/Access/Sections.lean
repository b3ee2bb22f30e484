import ChannelMembership.Access.BackOffice
import ChannelMembership.Proofs.Access.Authorization
import ChannelMembership.Proofs.Access.Declarations

/-!
# Sections stand alone

The standard channels are given out to the sections of the back office and to the current user, and
none is given out twice.  So each of them is governed by one guard alone, and what this guard says
about the principal decides.  A policy that cannot be evaluated closes its own section and no other.
-/

namespace ChannelMembership

namespace Directory

/-- No two registrations declare the same channel. -/
def Apart (directory : Directory) : Prop :=
  directory.guards.Pairwise fun a b => ∀ channel ∈ a.channels, channel ∉ b.channels

variable {directory : Directory} {guard : Guard} {channel : Channel}

/-- Where guards declare different channels, a channel is governed by the one that declares it. -/
theorem guardsFor_eq_singleton (apart : directory.Apart)
    (registered : guard ∈ directory.guards) (declared : channel ∈ guard.channels) :
    directory.guardsFor channel = [guard] := by
  obtain ⟨former, later, split⟩ := List.append_of_mem registered
  rw [Apart, split, List.pairwise_append, List.pairwise_cons] at apart
  obtain ⟨-, ⟨apart_later, -⟩, apart_former⟩ := apart
  have none_former : former.filter (fun other => channel ∈ other.channels) = [] := by
    refine List.filter_eq_nil_iff.2 fun other member declares => ?_
    exact apart_former other member guard List.mem_cons_self channel
      (of_decide_eq_true declares) declared
  have none_later : later.filter (fun other => channel ∈ other.channels) = [] := by
    refine List.filter_eq_nil_iff.2 fun other member declares => ?_
    exact apart_later other member channel declared (of_decide_eq_true declares)
  rw [guardsFor_eq_filter, split, List.filter_append, none_former]
  simp [declared, none_later]

/-- What that guard says about the principal decides. -/
theorem mem_authorized_iff_of_apart (apart : directory.Apart)
    (registered : guard ∈ directory.guards) (declared : channel ∈ guard.channels)
    (principal : Principal) :
    channel ∈ (directory.authorize principal).authorized ↔
      guard.decide principal channel = .ok true := by
  have governed := (directory.governs_iff channel).2 ⟨guard, registered, declared⟩
  rw [mem_authorized, and_iff_right governed, grants,
    guardsFor_eq_singleton apart registered declared]
  simp [Verdict.grants_iff]

/-- Every known channel stands on one of the two sides. -/
theorem channels_authorize_perm (directory : Directory) (principal : Principal) :
    (directory.authorize principal).channels.Perm directory.channels :=
  List.filter_append_perm (directory.grants principal) directory.channels

end Directory

namespace BackOffice

/-- The standard channels as they are given out: section by section, then to the current user. -/
def distribution : List (List Channel) := Section.all.map Section.channels ++ [[currentUser]]

/-- Every standard channel is given out. -/
theorem distribution_perm : distribution.flatten.Perm channels := by
  decide +kernel

theorem nodup_channels : channels.Nodup := by
  decide +kernel

theorem policy_injective : Function.Injective Section.policy := by
  intro a b
  cases a <;> cases b <;> simp [Section.policy]

variable (rule : PolicyRule) (principal : Principal)

/-- The directory of the standard guards. -/
def directory : Directory := ⟨guards rule⟩

theorem channels_guards : (guards rule).map Guard.channels = distribution := by
  simp [guards, distribution, Section.toGuard, Guard.ofPolicy, Guard.ofSelf, Function.comp_def]

theorem apart : (directory rule).Apart := by
  have disjoint := (List.nodup_flatten.1 (distribution_perm.nodup_iff.2 nodup_channels)).2
  rw [← channels_guards rule, List.pairwise_map] at disjoint
  exact disjoint

theorem section_registered (office : Section) : office.toGuard rule ∈ (directory rule).guards := by
  have listed : office ∈ Section.all := by cases office <;> decide
  exact List.mem_append_left _ (List.mem_map_of_mem listed)

theorem governs_iff (channel : Channel) :
    (directory rule).governs channel = true ↔ channel ∈ channels := by
  rw [Directory.governs_iff, ← distribution_perm.mem_iff, ← channels_guards rule]
  simp [directory]

theorem length_guardsFor (channel : Channel) :
    ((directory rule).guardsFor channel).length = if channel ∈ channels then 1 else 0 := by
  split <;> rename_i standard
  · obtain ⟨guard, registered, declared⟩ :=
      ((directory rule).governs_iff channel).1 ((governs_iff rule channel).2 standard)
    rw [Directory.guardsFor_eq_singleton (apart rule) registered declared]
    rfl
  · rw [← governs_iff rule, (directory rule).inverts.governs_iff_ne_nil, ne_eq, not_not] at standard
    rw [standard]
    rfl

/-- A channel is granted if the policies of its sections are satisfied and, if it is the channel of
the current user, the user is known. -/
theorem grants_iff (channel : Channel) :
    (directory rule).grants principal channel = true ↔
      (∀ office : Section, channel ∈ office.channels → rule principal office.policy = .ok true) ∧
        (channel = currentUser → principal.user.isSome = true) := by
  rw [Directory.grants_iff]
  constructor
  · intro granted
    refine ⟨fun office declared => granted _ (section_registered rule office) declared, ?_⟩
    rintro rfl
    have self := granted (.ofSelf [currentUser])
      (List.mem_append_right _ List.mem_cons_self) List.mem_cons_self
    simpa [Guard.ofSelf] using self
  · rintro ⟨sections, self⟩ guard registered declared
    rcases List.mem_append.1 registered with registered | registered
    · obtain ⟨office, -, rfl⟩ := List.mem_map.1 registered
      exact sections office declared
    · obtain rfl := List.mem_singleton.1 registered
      exact congrArg Except.ok (self (List.mem_singleton.1 declared))

/-- A split of the standard channels in which every section goes by its own policy. -/
structure GoesBySection (partition : Partition) : Prop where
  /-- The channels on both sides are the standard channels, each listed once. -/
  covers : partition.channels.Perm channels
  /-- A channel of a section is authorised if the policy of the section is satisfied. -/
  section_iff : ∀ office : Section, ∀ channel ∈ office.channels,
    channel ∈ partition.authorized ↔ rule principal office.policy = .ok true
  /-- The channel of the current user is authorised if the user is known. -/
  self_iff : currentUser ∈ partition.authorized ↔ principal.user.isSome = true

theorem goesBySection_authorize :
    GoesBySection rule principal ((directory rule).authorize principal) where
  covers := by
    refine ((directory rule).channels_authorize_perm principal).trans ?_
    refine (List.perm_ext_iff_of_nodup (directory rule).nodup_channels nodup_channels).2 ?_
    intro channel
    rw [Directory.mem_channels, governs_iff]
  section_iff office channel declared :=
    Directory.mem_authorized_iff_of_apart (apart rule) (section_registered rule office) declared
      principal
  self_iff := by
    rw [Directory.mem_authorized_iff_of_apart (apart rule)
      (List.mem_append_right _ List.mem_cons_self) List.mem_cons_self]
    simp [Guard.ofSelf]

variable {rule principal}

/-- Another answer to one policy changes nothing outside its section. -/
theorem mem_side_authorize_congr {other : PolicyRule} {office : Section}
    (agree : ∀ policy, policy ≠ office.policy → other principal policy = rule principal policy)
    {channel : Channel} (outside : channel ∉ office.channels) (granted : Bool) :
    channel ∈ ((directory other).authorize principal).side granted ↔
      channel ∈ ((directory rule).authorize principal).side granted := by
  have same : (directory other).grants principal channel =
      (directory rule).grants principal channel := by
    rw [Bool.eq_iff_iff, grants_iff, grants_iff]
    refine and_congr_left' (forall₂_congr fun another declared => ?_)
    rw [agree another.policy fun named => ?_]
    obtain rfl := policy_injective named
    exact outside declared
  rw [Directory.mem_side_authorize, Directory.mem_side_authorize, governs_iff, governs_iff, same]

end BackOffice

/-- Whatever the policies say, a principal is authorised for the channels of a section if the policy
of that section is satisfied, and for the channel of the current user if the user is known.  Every
standard channel has one guard.  If the policy of one section cannot be evaluated, that section is
closed and the others stay as they are. -/
theorem sections_stand_alone (rule : PolicyRule) (principal : Principal) :
    ∃ partition,
      (Table.build (BackOffice.guards rule)).authorize principal = .ok partition ∧
      BackOffice.GoesBySection rule principal partition ∧
      (∀ channel, ((Table.build (BackOffice.guards rule)).guardsFor channel).length =
        if channel ∈ BackOffice.channels then 1 else 0) ∧
      ∀ (other : PolicyRule) (office : BackOffice.Section) (error : AccessError),
        other principal office.policy = .error error →
        (∀ policy, policy ≠ office.policy → other principal policy = rule principal policy) →
          ∃ narrowed,
            (Table.build (BackOffice.guards other)).authorize principal = .ok narrowed ∧
            (∀ channel ∈ office.channels, channel ∈ narrowed.unauthorized) ∧
            ∀ channel, channel ∉ office.channels → ∀ granted,
              channel ∈ narrowed.side granted ↔ channel ∈ partition.side granted := by
  refine ⟨_, Directory.table_authorize (BackOffice.directory rule) principal,
    BackOffice.goesBySection_authorize rule principal, BackOffice.length_guardsFor rule, ?_⟩
  intro other office error fails agree
  refine ⟨_, Directory.table_authorize (BackOffice.directory other) principal, ?_,
    fun channel outside => BackOffice.mem_side_authorize_congr agree outside⟩
  intro channel declared
  have governed := (Directory.governs_iff _ channel).2
    ⟨_, BackOffice.section_registered other office, declared⟩
  rw [Directory.mem_unauthorized, and_iff_right governed, ← Bool.not_eq_true,
    BackOffice.grants_iff]
  rintro ⟨sections, -⟩
  have satisfied := sections office declared
  rw [fails] at satisfied
  cases satisfied

/-- Every policy is satisfied, but nothing can be learnt about that of the media section. -/
def mediaOutage : PolicyRule := fun _ policy =>
  if policy = "section.media" then .error (.unavailable "down") else .ok true

/-- While the media section is out, an editor has the channels of all other sections. -/
theorem sections_stand_alone_in_outage :
    let willing : PolicyRule := fun _ _ => .ok true
    let editor : Principal := ⟨some ⟨1⟩, [.role "editor"]⟩
    mediaOutage editor BackOffice.Section.media.policy = .error (.unavailable "down") ∧
    (∀ policy, policy ≠ BackOffice.Section.media.policy →
      mediaOutage editor policy = willing editor policy) ∧
    ((Table.build (BackOffice.guards mediaOutage)).authorize editor).toOption.map
      Partition.unauthorized = some [BackOffice.media] ∧
    ∃ partition narrowed,
      (Table.build (BackOffice.guards willing)).authorize editor = .ok partition ∧
      (Table.build (BackOffice.guards mediaOutage)).authorize editor = .ok narrowed ∧
      BackOffice.media ∈ narrowed.unauthorized ∧
      ∀ channel, channel ∉ BackOffice.Section.media.channels → ∀ granted,
        channel ∈ narrowed.side granted ↔ channel ∈ partition.side granted := by
  intro willing editor
  have agree (policy : String) (elsewhere : policy ≠ BackOffice.Section.media.policy) :
      mediaOutage editor policy = willing editor policy := if_neg elsewhere
  obtain ⟨partition, authorized, -, -, apart⟩ := sections_stand_alone willing editor
  obtain ⟨narrowed, narrowed_authorized, closed, same⟩ :=
    apart mediaOutage .media (.unavailable "down") rfl agree
  exact ⟨rfl, agree, by decide +kernel, partition, narrowed, authorized, narrowed_authorized,
    closed _ List.mem_cons_self, same⟩

end ChannelMembership
