import SqlGateway.Unicode.CombiningClass
import SqlGateway.Unicode.Decomposition

/-! The composed normal form: of all texts that are canonically equivalent, the one with marks in
the order of their classes and as few characters as composites allow. -/
namespace SqlGateway.Unicode

structure Classed where
  char : Char
  combining : Nat

def Classed.ofChar (c : Char) : Classed := ⟨c, combiningClass c⟩

/-- Everything taken apart. Nothing is nested deeper than three levels. -/
def decompose (cs : List Char) : List Char := ((cs.flatMap parts).flatMap parts).flatMap parts

/-- Puts a mark behind the last character that it may not pass; the text is given from its end. -/
def place (c : Classed) : List Classed → List Classed
  | [] => [c]
  | d :: before =>
    if 0 < c.combining && c.combining < d.combining then d :: place c before
    else c :: d :: before

def arrange (cs : List Char) : List Classed :=
  (cs.foldl (fun before c => place (.ofChar c) before) []).reverse

/-- A text while composites are formed; all parts are given from their ends. -/
structure Composer where
  finished : List Char
  base : Option Char
  marks : List Classed

namespace Composer

def start : Composer := ⟨[], none, []⟩

def text (s : Composer) : List Char := s.marks.map (·.char) ++ s.base.toList ++ s.finished

def blocks (s : Composer) (c : Classed) : Bool :=
  match s.marks with
  | [] => false
  | mark :: _ => c.combining ≤ mark.combining

def append (s : Composer) (c : Classed) : Composer :=
  if c.combining = 0 then ⟨s.text, some c.char, []⟩ else { s with marks := c :: s.marks }

def push (s : Composer) (c : Classed) : Composer :=
  if s.blocks c then s.append c
  else match s.base.bind (composite? · c.char) with
    | some composite => { s with base := some composite }
    | none => s.append c

end Composer

def compose (cs : List Classed) : List Char := (cs.foldl Composer.push .start).text.reverse

/-- Text of the ASCII range is in normal form as it is. -/
def normalize (cs : List Char) : List Char :=
  if cs.all (·.toNat < 0x80) then cs else compose (arrange (decompose cs))

end SqlGateway.Unicode
