import DocStore.Proofs.Engine.Durable
import DocStore.Proofs.Engine.Reload
import DocStore.Proofs.Engine.Timed
import DocStore.Proofs.Engine.Unique
import DocStore.Proofs.Value.Alike

/-!
This module contains what comes back of the documents in memory when a file that was just written is
read: the same documents, but for the parts of a millisecond that their moments may have.
-/

namespace DocStore

open Collection Document Extended

namespace Collection

variable {clock : Clock} {docs docs' : List Fields}

end Collection

namespace Engine

theorem Reachable.holds {e : Engine} {P : Fields → Prop} (h : e.Reachable)
    (hload : ∀ d name docs ids ids', load d name ids = (.ok docs, ids') → ∀ doc ∈ docs, P doc)
    (hchange : ∀ (clock : Clock) docs docs', Change clock.now docs docs' → (∀ d ∈ docs, P d) →
      ∀ d ∈ docs', P d)
    : e.Holds P := by
  induction h with
  | start disk ids =>
    intro i
    rw [store_of_le (Nat.zero_le i)]
    simp
  | step _ hs ih =>
    cases hs with
    | begin q => exact begin_holds rfl ih (hload _)
    | enqueue i =>
      intro j
      rw [store_enqueue_documents]
      exact ih j
    | takeTurn clock i ht => exact takeTurn_holds ht (hchange clock) ih
    | release i =>
      intro j
      rw [store_release_documents]
      exact ih j
    | directory disk => exact ih
    | supply ids => exact ih

/--
Documents that hold no typed form. There is one in a document if it was left out when it was read,
or if a patch has completed it.
-/
def AreUntyped (docs : List Fields) : Prop := ∀ doc ∈ docs, holdsTyped (.object doc) = false

theorem AreUntyped.isRead {docs : List Fields} (h : AreUntyped docs)
    (hread : ∀ doc ∈ docs, doc.AreRead)
    : ∀ doc ∈ docs, (Value.object doc).IsRead := by
  intro doc hdoc
  have huntyped := h doc hdoc
  rw [holdsTyped, Bool.or_eq_false_iff] at huntyped
  exact .object (hread doc hdoc).keyed (.inl huntyped.1) (hread doc hdoc).values

def halfMilliText : String := "1970-01-01T00:00:00.0005Z"

theorem decode_halfMilliText
    : decode (tagged "$date" (ofString halfMilliText)) = pure (.date (.utc 500)) := by
  -- Moments are compared as options, because faults hold values, whose equality is not decided.
  have hread : (readDate halfMilliText.toList).toOption = some (.utc 500) := by decide +kernel
  have hdate : readDate halfMilliText.toList = .ok (.utc 500) := by
    generalize readDate halfMilliText.toList = result at hread
    cases result with
    | error e => cases hread
    | ok m => exact congrArg Except.ok (Option.some.inj hread)
  unfold ofString
  rw [decode_tagged, decode_ofText, pure_bind, String.ofList_toList,
    decodeObject_date (holdsTyped_text _), decodeDate, hdate]
  rfl

def halfMilliDocument : Value :=
  .object [(.text "at", .object [(.text "$date", .text halfMilliText)])]

def halfMilliFields : Fields := [(.text "at", .date (.utc 500))]

theorem normalForm_halfMilliDocument
    : normalForm halfMilliDocument {} = (.ok (.object halfMilliFields), {}) := by
  have hencode : encode .line halfMilliDocument
      = .ok (.object [("at".toList, tagged "$date" (ofString halfMilliText))]) := by
    rfl
  have hdecode : decode (.object [("at".toList, tagged "$date" (ofString halfMilliText))])
      = pure (.object halfMilliFields) := by
    rw [decode, decodeMembers, decodeMembers, decode_halfMilliText]
    simp only [pure_bind]
    rfl
  unfold normalForm
  rw [hencode]
  dsimp only
  rw [hdecode]
  rfl

end Engine

end DocStore
