import ChannelMembership.Proofs.Access.Authorization

/-!
# Authorisation by sets of claims

Guards that ask for a policy read the claims of a principal and the table of accepted claims as
sets: what counts is whether a claim is carried and whether it is accepted for the policy.  More
claims and more accepted claims can only open channels, although an unknown policy is an error and
several guards may have to agree about one channel.  So neither the order nor the repetition of
claims, or of the entries in the table, makes a difference.
-/

namespace ChannelMembership

namespace ClaimTable

theorem mem_claimsFor (table : ClaimTable) (policy : String) (claim : Claim) :
    claim ∈ table.claimsFor policy ↔ (policy, claim) ∈ table.accepted := by
  simp only [claimsFor, List.mem_filterMap, Prod.exists, Option.ite_none_right_eq_some,
    Option.some.injEq]
  constructor
  · rintro ⟨name, other, accepted, rfl, rfl⟩
    exact accepted
  · intro accepted
    exact ⟨policy, claim, accepted, rfl, rfl⟩

/-- A policy is satisfied by a claim that is accepted for it; that an unknown policy is an error
makes no difference. -/
theorem evaluate_eq_ok_true_iff (table : ClaimTable) (principal : Principal) (policy : String) :
    table.evaluate principal policy = .ok true ↔
      ∃ claim ∈ principal.claims, (policy, claim) ∈ table.accepted := by
  simp only [← mem_claimsFor, evaluate]
  cases table.claimsFor policy with
  | nil => simp
  | cons first rest =>
      simp only [Except.ok.injEq, List.any_eq_true, Principal.holds, decide_eq_true_eq]
      exact exists_congr fun claim => and_comm

end ClaimTable

/-- An entry made in a table of claims. -/
inductive Requirement where
  /-- A claim satisfies a policy. -/
  | claim (policy : String) (accepted : Claim)
  /-- A role satisfies a policy. -/
  | role (policy name : String)

namespace Requirement

/-- The policy and the claim that is accepted for it. -/
def entry : Requirement → String × Claim
  | claim policy accepted => (policy, accepted)
  | role policy name => (policy, Claim.role name)

/-- Make an entry in a table. -/
def enter (table : ClaimTable) : Requirement → ClaimTable
  | claim policy accepted => table.accept policy accepted
  | role policy name => table.acceptRole policy name

/-- The table made by some entries. -/
def tabulate (requirements : List Requirement) : ClaimTable :=
  requirements.foldl enter ClaimTable.empty

theorem accepted_enter (table : ClaimTable) (requirement : Requirement) :
    (requirement.enter table).accepted = table.accepted ++ [requirement.entry] := by
  cases requirement <;> rfl

theorem accepted_foldl (table : ClaimTable) (requirements : List Requirement) :
    (requirements.foldl enter table).accepted = table.accepted ++ requirements.map entry := by
  induction requirements generalizing table with
  | nil => simp
  | cons requirement rest ih => simp [ih, accepted_enter]

/-- A table accepts what was entered. -/
theorem accepted_tabulate (requirements : List Requirement) :
    (tabulate requirements).accepted = requirements.map entry :=
  accepted_foldl ClaimTable.empty requirements

end Requirement

/-- What a guard asks for if it asks for a policy or for a known user. -/
inductive Authority where
  /-- Grants its channels to whoever satisfies a policy. -/
  | policy (name : String) (channels : List Channel)
  /-- Grants its channels to every known user. -/
  | self (channels : List Channel)

namespace Authority

/-- The channels that it declares. -/
def channels : Authority → List Channel
  | policy _ channels => channels
  | self channels => channels

/-- The guard, once it is known how policies are decided. -/
def toGuard (rule : PolicyRule) : Authority → Guard
  | policy name channels => Guard.ofPolicy rule name channels
  | self channels => Guard.ofSelf channels

/-- The directory of some authorities that share a table of claims. -/
def directory (authorities : List Authority) (table : ClaimTable) : Directory :=
  ⟨authorities.map (toGuard table.evaluate)⟩

/-- Authorise a principal by authorities that share a table of claims. -/
def authorize (authorities : List Authority) (table : ClaimTable) (principal : Principal) :
    Except MembershipError Partition :=
  (directory authorities table).table.authorize principal

variable {authorities : List Authority} {table wider : ClaimTable} {principal richer : Principal}

/-- Whoever carries more is granted at least as much by every single authority. -/
theorem decide_mono (claims : principal.claims ⊆ richer.claims)
    (known : principal.user.isSome = true → richer.user.isSome = true)
    (accepted : table.accepted ⊆ wider.accepted) (authority : Authority) (channel : Channel)
    (granted : (authority.toGuard table.evaluate).decide principal channel = .ok true) :
    (authority.toGuard wider.evaluate).decide richer channel = .ok true := by
  cases authority with
  | policy name channels =>
      obtain ⟨claim, carried, satisfies⟩ :=
        (table.evaluate_eq_ok_true_iff principal name).1 granted
      exact (wider.evaluate_eq_ok_true_iff richer name).2
        ⟨claim, claims carried, accepted satisfies⟩
  | self channels => exact congrArg Except.ok (known (Except.ok.inj granted))

theorem governs_iff (channel : Channel) :
    (directory authorities table).governs channel = true ↔
      ∃ authority ∈ authorities, channel ∈ authority.channels := by
  have declared (authority : Authority) :
      (authority.toGuard table.evaluate).channels = authority.channels := by
    cases authority <;> rfl
  simp [Directory.governs_iff, directory, declared]

/-- All guards of a channel agree again when more is carried and more is accepted. -/
theorem grants_mono (claims : principal.claims ⊆ richer.claims)
    (known : principal.user.isSome = true → richer.user.isSome = true)
    (accepted : table.accepted ⊆ wider.accepted) (channel : Channel)
    (granted : (directory authorities table).grants principal channel = true) :
    (directory authorities wider).grants richer channel = true := by
  rw [Directory.grants_iff] at granted ⊢
  intro guard registered declared
  obtain ⟨authority, member, rfl⟩ := List.mem_map.1 registered
  refine decide_mono claims known accepted authority channel ?_
  refine granted _ (List.mem_map_of_mem member) ?_
  cases authority <;> exact declared

/-- Equal sets of claims, and of accepted claims, lead to the same split of the channels. -/
theorem authorize_congr (claims : ∀ claim, claim ∈ principal.claims ↔ claim ∈ richer.claims)
    (known : principal.user.isSome = richer.user.isSome)
    (accepted : ∀ entry, entry ∈ table.accepted ↔ entry ∈ wider.accepted) :
    ∃ partition, authorize authorities table principal = .ok partition ∧
      authorize authorities wider richer = .ok partition := by
  refine ⟨_, Directory.table_authorize _ principal, ?_⟩
  rw [authorize, Directory.table_authorize]
  refine congrArg Except.ok (Directory.authorize_eq_of_grants_iff (fun channel => ?_)
    fun channel => ⟨?_, ?_⟩)
  · rw [governs_iff, governs_iff]
  · exact grants_mono (fun claim => (claims claim).2) (fun some => known.trans some)
      (fun entry => (accepted entry).2) channel
  · exact grants_mono (fun claim => (claims claim).1) (fun some => known.symm.trans some)
      (fun entry => (accepted entry).1) channel

/-- Whoever carries more claims, by a table that accepts more of them, is authorised for no channel
less. -/
theorem authorize_mono (claims : principal.claims ⊆ richer.claims)
    (known : principal.user.isSome = true → richer.user.isSome = true)
    (accepted : table.accepted ⊆ wider.accepted) :
    ∃ lesser greater, authorize authorities table principal = .ok lesser ∧
      authorize authorities wider richer = .ok greater ∧ lesser.authorized ⊆ greater.authorized := by
  refine ⟨_, _, Directory.table_authorize _ principal, Directory.table_authorize _ richer, ?_⟩
  intro channel authorized
  obtain ⟨governed, granted⟩ := (Directory.mem_authorized _ principal channel).1 authorized
  rw [governs_iff] at governed
  exact (Directory.mem_authorized _ richer channel).2
    ⟨(governs_iff channel).2 governed, grants_mono claims known accepted channel granted⟩

end Authority

/-- Authorisation by policies is monotone and depends on sets only.  A principal with more claims,
by a table that accepts more of them, is authorised for at least the same channels.  Principals with
the same claims, in whatever order and however often, get the same split of the channels, and so it
is with tables made by the same entries. -/
theorem authorization_follows_claim_sets (authorities : List Authority) :
    (∀ (table wider : ClaimTable) (principal richer : Principal),
      principal.claims ⊆ richer.claims →
      (principal.user.isSome = true → richer.user.isSome = true) →
      table.accepted ⊆ wider.accepted →
        ∃ lesser greater, Authority.authorize authorities table principal = .ok lesser ∧
          Authority.authorize authorities wider richer = .ok greater ∧
          lesser.authorized ⊆ greater.authorized) ∧
    (∀ (table : ClaimTable) (principal other : Principal),
      (∀ claim, claim ∈ principal.claims ↔ claim ∈ other.claims) →
      principal.user.isSome = other.user.isSome →
        ∃ partition, Authority.authorize authorities table principal = .ok partition ∧
          Authority.authorize authorities table other = .ok partition) ∧
    ∀ (requirements others : List Requirement) (principal : Principal),
      (∀ entry, entry ∈ requirements.map Requirement.entry ↔
        entry ∈ others.map Requirement.entry) →
        ∃ partition,
          Authority.authorize authorities (Requirement.tabulate requirements) principal =
            .ok partition ∧
          Authority.authorize authorities (Requirement.tabulate others) principal =
            .ok partition := by
  refine ⟨fun table wider principal richer claims known accepted =>
      Authority.authorize_mono claims known accepted,
    fun table principal other claims known =>
      Authority.authorize_congr claims known fun entry => Iff.rfl,
    fun requirements others principal same =>
      Authority.authorize_congr (fun claim => Iff.rfl) rfl fun entry => ?_⟩
  rw [Requirement.accepted_tabulate, Requirement.accepted_tabulate]
  exact same entry

/-- The media desk and the content desk share the news; everybody known has a channel of their
own. -/
def newsdesk : List Authority :=
  [.policy "section.media" [⟨"media"⟩, ⟨"news"⟩], .policy "section.content" [⟨"news"⟩],
    .self [⟨"me"⟩]]

/-- Editors satisfy the policy of the media desk; that of the content desk is unknown. -/
def mediaRules : List Requirement := [.role "section.media" "editor"]

/-- Writers satisfy the policy of the content desk as well. -/
def deskRules : List Requirement :=
  [.claim "section.content" ⟨"role", "writer"⟩, .role "section.media" "editor"]

/-- A writer has the news as soon as the content desk has a policy, and loses nothing.  Neither the
order nor the repetition of claims and rules changes that. -/
theorem writing_opens_news_at_newsdesk :
    let editor : Principal := ⟨some ⟨1⟩, [.role "editor"]⟩
    let writer : Principal := ⟨some ⟨2⟩, [.role "writer", .role "editor", .role "writer"]⟩
    let mediaTable := Requirement.tabulate mediaRules
    let deskTable := Requirement.tabulate deskRules
    editor.claims ⊆ writer.claims ∧
    (editor.user.isSome = true → writer.user.isSome = true) ∧
    mediaTable.accepted ⊆ deskTable.accepted ∧
    (Authority.authorize newsdesk mediaTable editor = .ok ⟨[⟨"me"⟩, ⟨"media"⟩], [⟨"news"⟩]⟩ ∧
      Authority.authorize newsdesk deskTable writer = .ok ⟨[⟨"me"⟩, ⟨"media"⟩, ⟨"news"⟩], []⟩) ∧
    (∃ lesser greater, Authority.authorize newsdesk mediaTable editor = .ok lesser ∧
      Authority.authorize newsdesk deskTable writer = .ok greater ∧
      lesser.authorized ⊆ greater.authorized) ∧
    (∃ partition, Authority.authorize newsdesk deskTable writer = .ok partition ∧
      Authority.authorize newsdesk deskTable ⟨some ⟨3⟩, [.role "editor", .role "writer"]⟩ =
        .ok partition) ∧
    ∃ partition, Authority.authorize newsdesk deskTable writer = .ok partition ∧
      Authority.authorize newsdesk (Requirement.tabulate (mediaRules ++ deskRules)) writer =
        .ok partition := by
  intro editor writer mediaTable deskTable
  have follows := authorization_follows_claim_sets newsdesk
  have claims : editor.claims ⊆ writer.claims := by decide
  have accepted : mediaTable.accepted ⊆ deskTable.accepted := by decide
  refine ⟨claims, fun _ => rfl, accepted, by decide +kernel,
    follows.1 _ _ _ _ claims (fun _ => rfl) accepted, follows.2.1 _ _ _ ?_ rfl,
    follows.2.2 _ _ _ ?_⟩
  · simp [writer, or_comm]
  · simp [mediaRules, deskRules, Requirement.entry, Claim.role, Claim.roleKind, or_comm]

end ChannelMembership
