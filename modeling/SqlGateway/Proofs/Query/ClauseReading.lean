import SqlGateway.Proofs.Query.Alike
import SqlGateway.Proofs.Query.Readable

/-! The clauses of a statement can be read back. Names stand in them unquoted and absent clauses
leave no trace; a keyword is known by its place and not by its spelling. -/
namespace SqlGateway

namespace Filter

/-- What the text of a condition starts with. -/
def lead : Filter → String
  | compare column _ _ => column
  | among _ [] => "FALSE"
  | among column (_ :: _) => column

/-- What the text of a condition goes on with. -/
def relation : Filter → List Fragment
  | compare _ comparison v => [.text (" " ++ comparison.sql ++ " "), .bind v]
  | among _ [] => []
  | among _ (v :: vs) => .text " IN (" :: (Query.bindList (v :: vs) ++ [.text ")"])

end Filter

namespace Query

open Fragment Text

/-- The words that may stand behind the conditions of a statement. -/
def afterFilters : List String := [" ORDER BY ", " LIMIT ", " OFFSET ", " RETURNING *"]

theorem written_filterFragments (bound : Nat) (f : Filter) (x : List Char) :
    written bound (filterFragments f) ++ x =
      f.lead.toList ++ (written bound f.relation ++ x) := by
  match f with
  | .compare _ _ _ => simp [filterFragments, Filter.lead, Filter.relation, written]
  | .among _ [] => simp [filterFragments, Filter.lead, Filter.relation, written]
  | .among _ (_ :: _) => simp [filterFragments, Filter.lead, Filter.relation, written]

theorem isNameChar_lead {f : Filter} (h : Identifier.accepts f.column = true) :
    ∀ c ∈ f.lead.toList, Identifier.isNameChar c = true := by
  match f with
  | .compare _ _ _ => exact Identifier.isNameChar_of_accepts h
  | .among _ [] =>
      have hfalse : Identifier.accepts "FALSE" = true := by decide
      exact Identifier.isNameChar_of_accepts hfalse
  | .among _ (_ :: _) => exact Identifier.isNameChar_of_accepts h

theorem stops_relation {x : List Char} (f : Filter) (bound : Nat)
    (hx : Follows (" AND " :: afterFilters) x) :
    Stops Identifier.isNameChar (written bound f.relation ++ x) := by
  match f with
  | .compare _ comparison _ => cases comparison <;> exact .cons rfl _
  | .among _ [] => exact hx.stops (by decide)
  | .among _ (_ :: _) => exact .cons rfl _

theorem readable_bindList {words : List String} (hw : Apart ", " words) :
    Readable bindList words (· ≠ []) (List.Forall₂ fun _ _ => True) := by
  intro bound vs ws x y hvs hws hx hy h
  exact readable_value.separate hw (fun _ _ _ => rfl) ⟨hvs, fun _ _ => trivial⟩
    ⟨hws, fun _ _ => trivial⟩ hx hy h

theorem apart_comparison (c : Comparison) :
    Apart (" " ++ c.sql ++ " ") (" AND " :: afterFilters) := by
  cases c <;> decide

theorem comparison_eq_of_head? {c d : Comparison}
    (h : c.sql.toList.head? = d.sql.toList.head?) : c = d := by
  revert h
  cases c <;> cases d <;> decide

theorem getElem?_comparison (c : Comparison) (x : List Char) :
    ((" " ++ c.sql ++ " ").toList ++ x)[1]? = c.sql.toList.head? := by
  cases c <;> rfl

theorem comparison_eq_of_append {c d : Comparison} {x y : List Char}
    (h : (" " ++ c.sql ++ " ").toList ++ x = (" " ++ d.sql ++ " ").toList ++ y) : c = d := by
  apply comparison_eq_of_head?
  rw [← getElem?_comparison c x, h, getElem?_comparison]

theorem comparison_ne_in {c : Comparison} {x y : List Char}
    (h : (" " ++ c.sql ++ " ").toList ++ x = " IN (".toList ++ y) : False := by
  cases c <;> simp [Comparison.sql] at h

/-- What a condition goes on with is not what follows a condition. -/
theorem ne_relation_append {f : Filter} {x : List Char} (hf : f.relation ≠ [])
    (hx : Follows (" AND " :: afterFilters) x) (bound : Nat) (y : List Char) :
    x ≠ written bound f.relation ++ y := by
  have hin : Apart " IN (" (" AND " :: afterFilters) := by decide
  rintro rfl
  match f with
  | .compare _ c _ =>
      simp only [Filter.relation, written, List.append_assoc] at hx
      exact hx.not_append (apart_comparison c)
  | .among _ [] => exact hf rfl
  | .among _ (_ :: _) =>
      simp only [Filter.relation, written, List.append_assoc] at hx
      exact hx.not_append hin

/-- Behind equal leads, each kind of condition goes on in a way of its own, and a condition
without values goes on with what follows it. -/
theorem alike_of_relation {f g : Filter} {bound : Nat} {x y : List Char}
    (hx : Follows (" AND " :: afterFilters) x) (hy : Follows (" AND " :: afterFilters) y)
    (hlead : f.lead = g.lead)
    (h : written bound f.relation ++ x = written bound g.relation ++ y) :
    Filter.Alike (fun _ _ => True) f g ∧ x = y := by
  match f, g with
  | .compare column c v, .compare other d w =>
      simp only [Filter.relation, written, List.append_assoc] at h
      obtain rfl : column = other := hlead
      obtain rfl := comparison_eq_of_append h
      exact ⟨.compare trivial, List.append_cancel_left (List.append_cancel_left h)⟩
  | .compare column c v, .among _ [] =>
      have hrel : (Filter.compare column c v).relation ≠ [] := List.cons_ne_nil _ _
      exact absurd h.symm (ne_relation_append hrel hy bound x)
  | .compare _ _ _, .among _ (_ :: _) =>
      simp only [Filter.relation, written, List.append_assoc] at h
      exact (comparison_ne_in h).elim
  | .among _ [], .compare column d w =>
      have hrel : (Filter.compare column d w).relation ≠ [] := List.cons_ne_nil _ _
      exact absurd h (ne_relation_append hrel hx bound y)
  | .among _ [], .among _ [] => exact ⟨.never, h⟩
  | .among _ [], .among column (w :: ws) =>
      have hrel : (Filter.among column (w :: ws)).relation ≠ [] := List.cons_ne_nil _ _
      exact absurd h (ne_relation_append hrel hx bound y)
  | .among _ (_ :: _), .compare _ _ _ =>
      simp only [Filter.relation, written, List.append_assoc] at h
      exact (comparison_ne_in h.symm).elim
  | .among column (v :: vs), .among _ [] =>
      have hrel : (Filter.among column (v :: vs)).relation ≠ [] := List.cons_ne_nil _ _
      exact absurd h.symm (ne_relation_append hrel hy bound x)
  | .among column (v :: vs), .among other (w :: ws) =>
      simp only [Filter.relation, written, written_append, List.append_assoc,
        List.nil_append] at h
      obtain rfl : column = other := hlead
      have hclose : ∀ z, Follows [")"] (")".toList ++ z) := Follows.of_mem List.mem_cons_self
      have hread : Readable bindList [")"] _ _ := readable_bindList (by decide)
      obtain ⟨hvalues, hrest⟩ := hread (List.cons_ne_nil v vs) (List.cons_ne_nil w ws)
        (hclose x) (hclose y) (List.append_cancel_left h)
      exact ⟨.among hvalues, List.append_cancel_left hrest⟩

theorem readable_filter : Readable filterFragments (" AND " :: afterFilters)
    (fun f => Identifier.accepts f.column = true) (Filter.Alike fun _ _ => True) := by
  intro bound f g x y hf hg hx hy h
  rw [written_filterFragments, written_filterFragments] at h
  obtain ⟨hlead, hrest⟩ := append_cancel_run (isNameChar_lead hf) (isNameChar_lead hg)
    (stops_relation f bound hx) (stops_relation g bound hy) h
  exact alike_of_relation hx hy (String.toList_inj.mp hlead) hrest

/-- The conditions, or nothing where there are none. -/
def someFilters : List Filter → Option (List Filter)
  | [] => none
  | f :: fs => some (f :: fs)

theorem forall₂_of_someFilters {R : Filter → Filter → Prop} {fs gs : List Filter}
    (h : Option.Rel (List.Forall₂ R) (someFilters fs) (someFilters gs)) : List.Forall₂ R fs gs := by
  cases fs with
  | nil =>
      cases gs with
      | nil => exact .nil
      | cons g gs => cases h
  | cons f fs =>
      cases gs with
      | nil => cases h
      | cons g gs =>
          cases h with
          | some h => exact h

theorem whereClause_eq (q : Query) : q.whereClause =
    clause " WHERE " (fun fs => separate " AND " (fs.map filterFragments))
      (someFilters q.filters) := by
  unfold whereClause
  cases q.filters <;> rfl

theorem orderClause_eq (q : Query) : q.orderClause =
    clause " ORDER BY " (fun entry => [.text entry.1, .text " ", .text entry.2.sql]) q.order := by
  unfold orderClause
  cases q.order <;> rfl

theorem rowCountClause_eq (keyword : String) (count : Option UInt64) :
    rowCountClause keyword count = clause keyword (fun n => [.text (toString n.toNat)]) count := by
  cases count <;> rfl

theorem readable_where : Readable whereClause afterFilters
    (fun q => ∀ f ∈ q.filters, Identifier.accepts f.column = true)
    (fun q r => List.Forall₂ (Filter.Alike fun _ _ => True) q.filters r.filters) := by
  intro bound q r x y hq hr hx hy h
  have hlist := readable_filter.separate (by decide) fun f g hfg => by
    rw [values_filterFragments, values_filterFragments, hfg.values.length_eq]
  have hok : ∀ {fs : List Filter}, (∀ f ∈ fs, Identifier.accepts f.column = true) →
      ∀ gs ∈ someFilters fs, gs ≠ [] ∧ ∀ f ∈ gs, Identifier.accepts f.column = true := by
    intro fs hfs gs hgs
    cases fs with
    | nil => cases hgs
    | cons f fs => cases hgs; exact ⟨List.cons_ne_nil f fs, hfs⟩
  rw [whereClause_eq, whereClause_eq] at h
  obtain ⟨hrel, hxy⟩ := hlist.clause (by decide) (hok hq) (hok hr) hx hy h
  exact ⟨forall₂_of_someFilters hrel, hxy⟩

theorem direction_cancel {d e : Direction} {x y : List Char}
    (h : d.sql.toList ++ x = e.sql.toList ++ y) : d = e ∧ x = y := by
  cases d <;> cases e
  · exact ⟨rfl, List.append_cancel_left h⟩
  · simp [Direction.sql] at h
  · simp [Direction.sql] at h
  · exact ⟨rfl, List.append_cancel_left h⟩

theorem eq_of_rel {α : Type} {a b : Option α} (h : Option.Rel (· = ·) a b) : a = b := by
  cases h with
  | some h => rw [h]
  | none => rfl

theorem readable_order : Readable orderClause [" LIMIT ", " OFFSET "]
    (fun q => ∀ entry ∈ q.order, Identifier.accepts entry.1 = true)
    (fun q r => q.order = r.order) := by
  intro bound q r x y hq hr hx hy h
  have hentry : Readable
      (fun entry : String × Direction => [.text entry.1, .text " ", .text entry.2.sql])
      [" LIMIT ", " OFFSET "] (fun entry => Identifier.accepts entry.1 = true) (· = ·) := by
    rintro bound ⟨column, d⟩ ⟨other, e⟩ x y hcolumn hother - - h
    simp only [written, List.append_assoc, List.nil_append] at h
    have hblank : ∀ z, Stops Identifier.isNameChar (" ".toList ++ z) := fun z => .cons rfl z
    obtain ⟨hname, hrest⟩ := name_cancel hcolumn hother (hblank _) (hblank _) h
    obtain ⟨rfl, hxy⟩ := direction_cancel (List.append_cancel_left hrest)
    exact ⟨Prod.ext hname rfl, hxy⟩
  rw [orderClause_eq, orderClause_eq] at h
  obtain ⟨hrel, hxy⟩ := hentry.clause (by decide) hq hr hx hy h
  exact ⟨eq_of_rel hrel, hxy⟩

theorem readable_rowCount {keyword : String} {words : List String}
    (hdigit : Ends Char.isDigit words) (hk : Apart keyword words) :
    Readable (rowCountClause keyword) words (fun _ => True) (· = ·) := by
  intro bound n m x y _ _ hx hy h
  rw [rowCountClause_eq, rowCountClause_eq] at h
  obtain ⟨hrel, hxy⟩ := (readable_count hdigit).clause hk (fun _ _ => trivial)
    (fun _ _ => trivial) hx hy h
  exact ⟨eq_of_rel hrel, hxy⟩

theorem readable_assignment {words : List String} :
    Readable assignment words (fun field => Identifier.accepts field.1 = true)
      (fun field other => field.1 = other.1) := by
  rintro bound ⟨column, v⟩ ⟨other, w⟩ x y hcolumn hother - - h
  simp only [assignment, written, List.append_assoc] at h
  have heq : ∀ z, Stops Identifier.isNameChar (" = ".toList ++ z) := fun z => .cons rfl _
  obtain ⟨hname, hrest⟩ := name_cancel hcolumn hother (heq _) (heq _) h
  exact ⟨hname, List.append_cancel_left (List.append_cancel_left hrest)⟩

/-- The words that may stand behind the table of a selection or a deletion. -/
def afterTable : List String := " WHERE " :: afterFilters

theorem follows_limits (n m : Option UInt64) (bound : Nat) :
    Follows [" LIMIT ", " OFFSET "] (written bound (rowCountClause " LIMIT " n) ++
      (written bound (rowCountClause " OFFSET " m) ++ [])) := by
  rw [rowCountClause_eq, rowCountClause_eq]
  exact follows_clause _ _ _ _ (follows_clause _ _ _ _ (.nil []))

theorem follows_order (q : Query) (bound : Nat) {x : List Char}
    (hx : Follows [" LIMIT ", " OFFSET "] x) :
    Follows afterFilters (written bound q.orderClause ++ x) := by
  rw [orderClause_eq]
  exact (follows_clause _ _ _ _ hx).mono (by decide)

theorem follows_where (q : Query) (bound : Nat) {x : List Char} (hx : Follows afterFilters x) :
    Follows afterTable (written bound q.whereClause ++ x) := by
  rw [whereClause_eq]
  exact follows_clause _ _ _ _ hx

theorem follows_returning : Follows afterFilters " RETURNING *".toList :=
  List.append_nil " RETURNING *".toList ▸ Follows.of_mem (by decide) []

end Query

end SqlGateway
