import Mathlib.Data.List.Forall2
import SqlGateway.Query.Compile

/-! When two queries say the same. Values are compared by any relation; the form of a query and
its values are told apart, so that queries of the same form are alike where their values are. -/
namespace SqlGateway

/-- Conditions that say the same of values that are the same. The column of a condition without
values is not told. -/
inductive Filter.Alike (same : Value → Value → Prop) : Filter → Filter → Prop
  | compare {column comparison v w} :
      same v w → Alike same (.compare column comparison v) (.compare column comparison w)
  | among {column vs ws} :
      List.Forall₂ same vs ws → Alike same (.among column vs) (.among column ws)
  | never {column other} : Alike same (.among column []) (.among other [])

theorem forall₂_of_append {α : Type} {R : α → α → Prop} {a b x y : List α}
    (hlen : a.length = b.length) (h : List.Forall₂ R (a ++ x) (b ++ y)) :
    List.Forall₂ R a b ∧ List.Forall₂ R x y := by
  have hleft := List.forall₂_take_append (a ++ x) b y h
  have hright := List.forall₂_drop_append (a ++ x) b y h
  rw [← hlen, List.take_left' rfl] at hleft
  rw [← hlen, List.drop_left' rfl] at hright
  exact ⟨hleft, hright⟩

namespace Filter

variable {same : Value → Value → Prop}

theorem Alike.values {f g : Filter} (h : Alike same f g) :
    List.Forall₂ same f.values g.values := by
  cases h with
  | compare h => exact .cons h .nil
  | among h => exact h
  | never => exact .nil

theorem flatMap_values_of_alike {fs gs : List Filter} (h : List.Forall₂ (Alike same) fs gs) :
    List.Forall₂ same (fs.flatMap Filter.values) (gs.flatMap Filter.values) :=
  List.rel_flatMap h fun _ _ h => h.values

/-- Conditions of the same form are alike where their values are the same. -/
theorem Alike.of_values {f g : Filter} (h : Alike (fun _ _ => True) f g)
    (hvalues : List.Forall₂ same f.values g.values) : Alike same f g := by
  cases h with
  | compare _ => cases hvalues with
    | cons h _ => exact .compare h
  | among _ => exact .among hvalues
  | never => exact .never

theorem alike_of_flatMap_values {fs gs : List Filter}
    (h : List.Forall₂ (Alike fun _ _ => True) fs gs)
    (hvalues : List.Forall₂ same (fs.flatMap Filter.values) (gs.flatMap Filter.values)) :
    List.Forall₂ (Alike same) fs gs := by
  induction h with
  | nil => exact .nil
  | cons hfg _ ih =>
      obtain ⟨hfirst, hrest⟩ := forall₂_of_append hfg.values.length_eq hvalues
      exact .cons (hfg.of_values hfirst) (ih hrest)

end Filter

namespace Query

/-- Two queries with operations that say the same, of values that are the same. What an operation
does not use of its query is left open. -/
inductive Alike (same : Value → Value → Prop) (q r : Query) : Operation → Operation → Prop
  | select : q.table = r.table → q.projection = r.projection →
      List.Forall₂ (Filter.Alike same) q.filters r.filters → q.order = r.order →
      q.effectiveLimit = r.effectiveLimit → q.effectiveOffset = r.effectiveOffset →
      Alike same q r .select .select
  | insert {record other : Record} : q.table = r.table →
      List.Forall₂ (fun f g => f.1 = g.1 ∧ same f.2 g.2) record.fields other.fields →
      Alike same q r (.insert record) (.insert other)
  | update {record other : Record} : q.table = r.table →
      List.Forall₂ (fun f g => f.1 = g.1 ∧ same f.2 g.2) record.fields other.fields →
      List.Forall₂ (Filter.Alike same) q.filters r.filters →
      Alike same q r (.update record) (.update other)
  | delete : q.table = r.table → List.Forall₂ (Filter.Alike same) q.filters r.filters →
      Alike same q r .delete .delete

theorem fields_alike_of_values {same : Value → Value → Prop} {fs gs : List (String × Value)}
    (h : List.Forall₂ (fun f g => f.1 = g.1 ∧ True) fs gs)
    (hvalues : List.Forall₂ same (fs.map Prod.snd) (gs.map Prod.snd)) :
    List.Forall₂ (fun f g => f.1 = g.1 ∧ same f.2 g.2) fs gs := by
  induction h with
  | nil => exact .nil
  | cons hfg _ ih => cases hvalues with
    | cons hfirst hrest => exact .cons ⟨hfg.1, hfirst⟩ (ih hrest)

theorem Alike.of_boundValues {same : Value → Value → Prop} {q r : Query}
    {operation other : Operation} (h : Alike (fun _ _ => True) q r operation other)
    (hvalues : List.Forall₂ same (q.boundValues operation) (r.boundValues other)) :
    Alike same q r operation other := by
  cases h with
  | select htable hprojection hfilters horder hlimit hoffset =>
      exact .select htable hprojection (Filter.alike_of_flatMap_values hfilters hvalues) horder
        hlimit hoffset
  | insert htable hfields => exact .insert htable (fields_alike_of_values hfields hvalues)
  | @update record other htable hfields hfilters =>
      have hlen : record.values.length = other.values.length := by
        rw [Record.values, Record.values, List.length_map, List.length_map, hfields.length_eq]
      obtain ⟨hrecord, hconditions⟩ := forall₂_of_append hlen hvalues
      exact .update htable (fields_alike_of_values hfields hrecord)
        (Filter.alike_of_flatMap_values hfilters hconditions)
  | delete htable hfilters =>
      exact .delete htable (Filter.alike_of_flatMap_values hfilters hvalues)

theorem command_eq_of_alike {same : Value → Value → Prop} {q r : Query}
    {operation other : Operation} (h : Alike same q r operation other) :
    operation.command = other.command := by
  cases h <;> rfl

end Query

end SqlGateway
