import SqlGateway.Text.Blank

/-! Cutting a text at separators. A text always has at least one part; the words of a text are
its non-empty parts between blanks. -/
namespace SqlGateway.Text

def splitWhere (p : Char → Bool) : List Char → List (List Char)
  | [] => [[]]
  | c :: cs =>
    if p c then [] :: splitWhere p cs
    else match splitWhere p cs with
      | [] => [[c]]
      | part :: parts => (c :: part) :: parts

def splitAt (separator : Char) (cs : List Char) : List (List Char) :=
  splitWhere (· == separator) cs

/-- The maximal runs of characters that are not blank. -/
def words (cs : List Char) : List (List Char) :=
  (splitWhere isBlank cs).filter (!·.isEmpty)

theorem splitWhere_ne_nil (p : Char → Bool) (cs : List Char) : splitWhere p cs ≠ [] := by
  cases cs with
  | nil => exact List.cons_ne_nil _ _
  | cons c cs =>
    simp only [splitWhere]
    split
    · exact List.cons_ne_nil _ _
    · split <;> exact List.cons_ne_nil _ _

end SqlGateway.Text
