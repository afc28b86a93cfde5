import DocStore.Connector.Report
import DocStore.Proofs.Value.Fields

/-!
This module contains what the report of an upsert tells the caller under its names: that a document
was changed, or that one was inserted.
-/

namespace DocStore

namespace Report

def told? (r : Report) (name : String) : Option Value :=
  match r.toValue with
  | .object fs => Fields.get? fs (.text name)
  | _ => none

def upsertedCount (r : Report) : Int := ((r.told? "upserted_count").bind Value.integer?).getD 0

structure TellsUpdate (r : Report) (matched modified : Value) : Prop where
  matched : r.told? "matched_count" = some matched
  modified : r.told? "modified_count" = some modified
  id : r.told? "upserted_id" = none
  count : r.told? "upserted_count" = none

structure TellsInsertion (r : Report) (id : Value) : Prop where
  matched : r.told? "matched_count" = some (.int 0)
  modified : r.told? "modified_count" = some (.int 0)
  id : r.told? "upserted_id" = some id
  count : r.told? "upserted_count" = some (.int 1)

theorem updated_tells (matched modified : Value)
    : (updated matched modified).TellsUpdate matched modified := by
  constructor <;> simp [told?, toValue, Value.ofFields, Fields.get?, Value.equals]

theorem upserted_tells (id : Value) : (upserted id).TellsInsertion id := by
  constructor <;> simp [told?, toValue, Value.ofFields, Fields.get?, Value.equals]

theorem TellsUpdate.upsertedCount {r : Report} {matched modified : Value}
    (h : r.TellsUpdate matched modified)
    : r.upsertedCount = 0 := by
  unfold Report.upsertedCount
  rw [h.count]
  rfl

theorem TellsInsertion.upsertedCount {r : Report} {id : Value} (h : r.TellsInsertion id)
    : r.upsertedCount = 1 := by
  unfold Report.upsertedCount
  rw [h.count]
  rfl

end Report

end DocStore
