import SqlGateway.Statement
import SqlGateway.Proofs.Text.Follow

/-! The views of a list of fragments as texts. Each is additive: the text of two lists of fragments
is the text of the first and then that of the second, numbered on from the values of the first. -/
namespace SqlGateway

namespace Fragment

/-- The values that the fragments bind. -/
def values (fragments : List Fragment) : List Value := fragments.filterMap value?

/-- The text of the fragments behind `bound` values. -/
def written : Nat → List Fragment → List Char
  | _, [] => []
  | bound, text s :: rest => s.toList ++ written bound rest
  | bound, bind _ :: rest => '$' :: (Nat.toDigits 10 (bound + 1) ++ written (bound + 1) rest)

/-- The text of the fragments with literals for the values. -/
def shown : List Fragment → List Char
  | [] => []
  | text s :: rest => s.toList ++ shown rest
  | bind v :: rest => v.literal.toList ++ shown rest

@[simp] theorem values_nil : values [] = [] := rfl

@[simp] theorem values_text (s : String) (fs : List Fragment) :
    values (text s :: fs) = values fs := rfl

@[simp] theorem values_bind (v : Value) (fs : List Fragment) :
    values (bind v :: fs) = v :: values fs := rfl

@[simp] theorem values_append (fs gs : List Fragment) :
    values (fs ++ gs) = values fs ++ values gs := List.filterMap_append

theorem written_append (bound : Nat) (fs gs : List Fragment) :
    written bound (fs ++ gs) = written bound fs ++ written (bound + (values fs).length) gs := by
  induction fs generalizing bound with
  | nil => rfl
  | cons f fs ih =>
      cases f with
      | text s => simp [written, ih]
      | bind v => simp [written, ih, Nat.add_assoc, Nat.add_comm 1]

end Fragment

open Fragment

theorem Numbered.toList_foldl_push (fs : List Fragment) (n : Numbered) :
    (fs.foldl push n).text.toList = n.text.toList ++ written n.bound fs := by
  induction fs generalizing n with
  | nil => simp [written]
  | cons f fs ih =>
      rw [List.foldl_cons, ih]
      cases f with
      | text s => simp [push, written]
      | bind v => simp [push, written]

namespace Statement

variable (s : Statement)

theorem toList_sql : s.sql.toList = written 0 s.fragments := by
  simp [sql, Numbered.toList_foldl_push, Numbered.empty]

theorem toList_foldl_pushInline (fs : List Fragment) (out : String) :
    (fs.foldl pushInline out).toList = out.toList ++ shown fs := by
  induction fs generalizing out with
  | nil => simp [shown]
  | cons f fs ih =>
      rw [List.foldl_cons, ih]
      cases f <;> simp [pushInline, shown]

theorem toList_inlineSql : s.inlineSql.toList = shown s.fragments := by
  simp [inlineSql, toList_foldl_pushInline]

theorem params_eq : s.params = values s.fragments := rfl

end Statement

end SqlGateway
