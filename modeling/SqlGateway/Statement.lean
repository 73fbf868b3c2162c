import SqlGateway.Value

/-! Statements with bound values. A statement is a list of pieces of text and places for values;
the text that is sent, the parameters and the text for display are three views of that list. -/
namespace SqlGateway

inductive Command where
  | select
  | insert
  | update
  | delete
  deriving DecidableEq, Repr

def Command.word : Command → String
  | select => "SELECT"
  | insert => "INSERT"
  | update => "UPDATE"
  | delete => "DELETE"

inductive Fragment where
  | text (s : String)
  | bind (v : Value)

def Fragment.value? : Fragment → Option Value
  | text _ => none
  | bind v => some v

structure Numbered where
  text : String
  bound : Nat

namespace Numbered

def empty : Numbered := ⟨"", 0⟩

/-- A value is written as a dollar sign and its number, counted from one. -/
def push (n : Numbered) : Fragment → Numbered
  | .text s => { n with text := n.text ++ s }
  | .bind _ => ⟨(n.text.push '$') ++ toString (n.bound + 1), n.bound + 1⟩

end Numbered

structure Statement where
  command : Command
  fragments : List Fragment

namespace Statement

/-- The text that is sent, with numbered placeholders. -/
def sql (s : Statement) : String := (s.fragments.foldl Numbered.push .empty).text

def params (s : Statement) : List Value := s.fragments.filterMap Fragment.value?

def pushInline (out : String) : Fragment → String
  | .text s => out ++ s
  | .bind v => out ++ v.literal

/-- The text with each value's literal in its place, for display. -/
def inlineSql (s : Statement) : String := s.fragments.foldl pushInline ""

/-- Statements are compared by what they send and show. -/
instance : BEq Statement := ⟨fun s t =>
  s.command == t.command && s.sql == t.sql && s.inlineSql == t.inlineSql && s.params == t.params⟩

end Statement

end SqlGateway
