import BulkTransfer.Transfer.ResumeState
/-!
# Equality of trees

Whether two trees are equal can be decided, and so it can be for the documents and the resume states
that are made of them.
-/
namespace BulkTransfer

namespace Tree

mutual

def eq : Tree → Tree → Bool
  | .null, .null => true
  | .bool a, .bool b => a == b
  | .num a, .num b => a == b
  | .str a, .str b => a == b
  | .arr a, .arr b => eqItems a b
  | .obj a, .obj b => eqEntries a b
  | _, _ => false

def eqItems : List Tree → List Tree → Bool
  | [], [] => true
  | a :: as, b :: bs => eq a b && eqItems as bs
  | _, _ => false

def eqEntries : List (String × Tree) → List (String × Tree) → Bool
  | [], [] => true
  | (k, a) :: as, (l, b) :: bs => k == l && eq a b && eqEntries as bs
  | _, _ => false

end

mutual

theorem eq_iff (a b : Tree) : eq a b = true ↔ a = b := by
  cases a <;> cases b <;> simp [eq, eqItems_iff, eqEntries_iff]

theorem eqItems_iff (as bs : List Tree) : eqItems as bs = true ↔ as = bs := by
  match as, bs with
  | [], [] => simp [eqItems]
  | [], _ :: _ => simp [eqItems]
  | _ :: _, [] => simp [eqItems]
  | a :: as, b :: bs => simp [eqItems, eq_iff a b, eqItems_iff as bs]

theorem eqEntries_iff (as bs : List (String × Tree)) : eqEntries as bs = true ↔ as = bs := by
  match as, bs with
  | [], [] => simp [eqEntries]
  | [], _ :: _ => simp [eqEntries]
  | _ :: _, [] => simp [eqEntries]
  | (k, a) :: as, (l, b) :: bs => simp [eqEntries, eq_iff a b, eqEntries_iff as bs, and_assoc]

end

instance : DecidableEq Tree := fun a b => decidable_of_iff _ (eq_iff a b)

end Tree

deriving instance DecidableEq for Document, TaskRecord, ResumeState

end BulkTransfer
