import Mathlib.Data.Finset.Card
import ChannelMembership.Access.Directory
import ChannelMembership.Proofs.Text.Bytes

/-!
# Declarations turned round

A guard declares channels, a directory tells who governs a channel.  The directory is put together
by calls that register one guard or several, and its table is built by entering every guard once for
every channel it declares.  Whatever the calls and the declarations, the table turns the
declarations round and adds nothing: each registration stands once with each of its channels, in
the order of registration, and a channel stands in the table because somebody declares it.
-/

namespace ChannelMembership

/-- A call by which guards are registered. -/
inductive Enrolment where
  /-- A guard made for this directory alone. -/
  | own (guard : Guard)
  /-- A guard that may be registered elsewhere, or here once more. -/
  | shared (guard : Guard)
  /-- Several such guards in order. -/
  | several (guards : List Guard)

namespace Enrolment

/-- The guards that a call registers, in order. -/
def guards : Enrolment → List Guard
  | own guard | shared guard => [guard]
  | several guards => guards

/-- Make a call on a directory. -/
def perform (directory : Directory) : Enrolment → Directory
  | own guard | shared guard => directory.register guard
  | several guards => directory.registerAll guards

/-- The directory put together by some calls. -/
def compose (calls : List Enrolment) : Directory := calls.foldl perform Directory.empty

theorem guards_perform (directory : Directory) (call : Enrolment) :
    (call.perform directory).guards = directory.guards ++ call.guards := by
  cases call <;> rfl

theorem guards_foldl (directory : Directory) (calls : List Enrolment) :
    (calls.foldl perform directory).guards = directory.guards ++ calls.flatMap guards := by
  induction calls generalizing directory with
  | nil => simp
  | cons call rest ih => simp [ih, guards_perform]

/-- Only the sequence of the guards matters. -/
theorem compose_eq (calls : List Enrolment) : compose calls = ⟨calls.flatMap guards⟩ :=
  congrArg Directory.mk (guards_foldl Directory.empty calls)

end Enrolment

/-- A directory that turns the declarations of the registered guards round. -/
structure Directory.Inverts (directory : Directory) (registered : List Guard) : Prop where
  /-- The known channels strictly ascend in the order of bytes, so none is listed twice. -/
  ascending : directory.channels.Pairwise fun a b => Bytes.ofText a.name < Bytes.ofText b.name
  /-- A channel is known if some registered guard declares it. -/
  mem_channels_iff : ∀ channel,
    channel ∈ directory.channels ↔ ∃ guard ∈ registered, channel ∈ guard.channels
  /-- Who governs a channel is read off the registrations in their order: every registration of a
  guard that declares the channel counts once. -/
  guardsFor_eq : ∀ channel,
    directory.guardsFor channel = registered.filter fun guard => channel ∈ guard.channels
  /-- A channel is governed if its list of guards is not empty. -/
  governs_iff_ne_nil : ∀ channel,
    directory.governs channel = true ↔ directory.guardsFor channel ≠ []
  /-- A channel is governed if it is known. -/
  governs_iff_mem : ∀ channel,
    directory.governs channel = true ↔ channel ∈ directory.channels
  /-- As many channels are counted as there are different ones in the declarations. -/
  size_eq_card : directory.size = (registered.flatMap Guard.channels).toFinset.card
  /-- No channel is known if none is counted. -/
  isEmpty_iff : directory.isEmpty = true ↔ directory.size = 0

namespace Directory

theorem guardsFor_eq_filter (directory : Directory) (channel : Channel) :
    directory.guardsFor channel =
      directory.guards.filter fun guard => channel ∈ guard.channels := by
  rw [guardsFor, table, Table.guardsFor_build]
  exact List.filter_congr fun guard _ => by simp [Guard.declares]

theorem inverts (directory : Directory) : directory.Inverts directory.guards where
  ascending := directory.table.ascending.pairwise_bytes_lt
  mem_channels_iff channel := by rw [mem_channels, governs_iff]
  guardsFor_eq := directory.guardsFor_eq_filter
  governs_iff_ne_nil channel := by
    rw [governs_iff, guardsFor_eq_filter, ne_eq, List.filter_eq_nil_iff]
    simp
  governs_iff_mem channel := (directory.mem_channels channel).symm
  size_eq_card := by
    have same : (directory.guards.flatMap Guard.channels).toFinset =
        directory.channels.toFinset := by
      ext channel
      rw [List.mem_toFinset, List.mem_toFinset, mem_channels, governs_iff, List.mem_flatMap]
    rw [same, List.toFinset_card_of_nodup directory.nodup_channels]
    rfl
  isEmpty_iff := by rw [isEmpty, List.isEmpty_iff, size, List.length_eq_zero_iff]

end Directory

/-- Whatever calls a directory was put together by, it turns the declarations of the registered
guards round.  How the registrations were spread over the calls makes no difference. -/
theorem directory_inverts_declarations (calls : List Enrolment) :
    (Enrolment.compose calls).Inverts (calls.flatMap Enrolment.guards) ∧
      ∀ others : List Enrolment,
        others.flatMap Enrolment.guards = calls.flatMap Enrolment.guards →
          Enrolment.compose others = Enrolment.compose calls := by
  constructor
  · rw [Enrolment.compose_eq]
    exact Directory.inverts _
  · intro others same
    rw [Enrolment.compose_eq, Enrolment.compose_eq, same]

/-- A guard that repeats a channel governs it once, a guard registered twice governs it twice. -/
example :
    let chatty := Guard.constant "chatty" (.ok true) [⟨"news"⟩, ⟨"é"⟩, ⟨"news"⟩]
    let directory := Enrolment.compose [.own (.ofSelf [⟨"me"⟩]), .several [chatty], .shared chatty]
    directory.channels = [⟨"me"⟩, ⟨"news"⟩, ⟨"é"⟩] ∧
      (directory.guardsFor ⟨"news"⟩).map Guard.name = ["chatty", "chatty"] := by
  decide +kernel

end ChannelMembership
