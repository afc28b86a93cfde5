import DocStore.Value.Basic

/-!
This module contains the calls that every connector answers, and the reports of changes.
-/

namespace DocStore

inductive Call where
  | createOne (collection doc : Value)
  | createMany (collection docs : Value)
  | findOne (collection query sort : Value)
  | findById (collection id : Value)
  | find (collection query limit skip sort : Value)
  | count (collection query : Value)
  | updateOne (collection doc : Value)
  | updateMany (collection query patch : Value)
  | upsertOne (collection doc key : Value)
  | deleteOne (collection id : Value)
  | deleteMany (collection query : Value)

inductive Report where
  | created (id : Value)
  | createdMany (ids : List Value)
  | updated (matched modified : Value)
  | upserted (id : Value)
  | deleted (count : Value)

namespace Report

def toValue : Report → Value
  | .created id => .ofFields [("inserted_id", id)]
  | .createdMany ids => .ofFields [("inserted_count", .int ids.length), ("inserted_ids", .list ids)]
  | .updated matched modified =>
    .ofFields [("matched_count", matched), ("modified_count", modified)]
  | .upserted id =>
    .ofFields [("upserted_id", id), ("upserted_count", .int 1), ("matched_count", .int 0),
      ("modified_count", .int 0)]
  | .deleted count => .ofFields [("deleted_count", count)]

end Report

inductive Answer where
  | nothing
  | report (r : Report)
  | document (d : Value)
  | documents (ds : List Value)
  | number (n : Value)
  | truth (b : Bool)
  | names (ns : List String)

namespace Answer

def toValue : Answer → Value
  | .nothing => .null
  | .report r => r.toValue
  | .document d => d
  | .documents ds => .list ds
  | .number n => n
  | .truth b => .bool b
  | .names ns => .list (ns.map .text)

end Answer

end DocStore
