import Mathlib
import SqlGateway.Proofs.Except
import SqlGateway.Proofs.Text.Follow
import SqlGateway.Url.Endpoint

/-! Which texts are addresses of the web. Such a text starts with one of two schemes, in letters of
either case, and names a host. A text that starts with any other scheme is told apart from one that
is no address at all. -/
namespace SqlGateway.Url

/-! ### Hosts -/

namespace Host

variable {cs : List Char} {host : Host}

theorem text_ne_nil_of_readName (h : readName cs = .ok host) : host.text ≠ [] := by
  unfold readName at h
  split at h
  · cases h
  · cases h
  · next name hname _ =>
      split at h
      · split at h
        · cases h
          exact List.append_ne_nil_of_right_ne_nil _ (List.cons_ne_nil _ _)
        · cases h
      · cases h
        exact hname

theorem text_ne_nil_of_readBracketed (h : readBracketed cs = .ok host) : host.text ≠ [] := by
  unfold readBracketed at h
  split at h
  · split at h
    · cases h
      exact List.cons_ne_nil _ _
    · cases h
  · cases h

theorem text_ne_nil_of_read (h : read cs = .ok host) : host.text ≠ [] := by
  unfold read at h
  split at h
  · exact text_ne_nil_of_readBracketed h
  · exact text_ne_nil_of_readName h

end Host

namespace Endpoint

variable {cs name rest : List Char} {text : String} {scheme : Scheme} {e : Endpoint}

theorem exists_host_of_readAuthority {defaultPort port : Option Nat} {credentials : Credentials}
    {host : Host} (h : readAuthority cs defaultPort = .ok (credentials, host, port)) :
    ∃ hostText, Host.read hostText = .ok host := by
  unfold readAuthority at h
  dsimp only at h
  split at h
  · cases h
  · obtain ⟨host', hhost, h⟩ := bind_eq_ok_iff.mp h
    obtain ⟨port', -, h⟩ := bind_eq_ok_iff.mp h
    cases h
    exact ⟨_, hhost⟩

theorem scheme_and_host_of_readWeb (h : readWeb scheme cs = .ok e) :
    e.scheme = scheme ∧ e.host.text ≠ [] := by
  obtain ⟨⟨credentials, host, port⟩, hauthority, h⟩ := bind_eq_ok_iff.mp h
  cases h
  obtain ⟨hostText, hhost⟩ := exists_host_of_readAuthority hauthority
  exact ⟨rfl, Host.text_ne_nil_of_read hhost⟩

/-! ### Schemes -/

/-- Letters, digits and three signs. -/
def isSchemeChar (c : Char) : Bool := c.isAlphanum || c == '+' || c == '-' || c == '.'

/-- The text is a scheme, a colon and a rest. A scheme starts with a letter, and its name is told
in small letters. -/
inductive Schemed : List Char → List Char → List Char → Prop
  | mk {c : Char} {more rest : List Char} : c.isAlpha = true →
      (∀ d ∈ more, isSchemeChar d = true) →
      Schemed (c :: more ++ ':' :: rest) ((c :: more).map Char.toLower) rest

theorem isSchemeChar_of_isAlpha {c : Char} (h : c.isAlpha = true) : isSchemeChar c = true := by
  simp [isSchemeChar, Char.isAlphanum, h]

theorem readScheme?_eq_some_iff : readScheme? cs = some (name, rest) ↔ Schemed cs name rest := by
  have hclass : (fun c : Char => c.isAlphanum || c == '+' || c == '-' || c == '.') = isSchemeChar :=
    rfl
  constructor
  · intro h
    obtain ⟨run, behind, rfl, hrun, hbehind⟩ := Text.exists_run isSchemeChar cs
    unfold readScheme? at h
    dsimp only at h
    rw [hclass, Text.takeWhile_append_stops hrun hbehind,
      Text.dropWhile_append_stops hrun hbehind] at h
    split at h
    · next c more rest' =>
        split at h
        · next hc =>
            cases h
            exact .mk hc (List.forall_mem_cons.mp hrun).2
        · cases h
    · cases h
  · rintro @⟨c, more, rest, hc, hmore⟩
    have hrun : ∀ d ∈ c :: more, isSchemeChar d = true :=
      List.forall_mem_cons.mpr ⟨isSchemeChar_of_isAlpha hc, hmore⟩
    have hcolon : Text.Stops isSchemeChar (':' :: rest) := .cons rfl rest
    unfold readScheme?
    dsimp only
    rw [hclass, Text.takeWhile_append_stops hrun hcolon, Text.dropWhile_append_stops hrun hcolon]
    exact if_pos hc

theorem isAlpha_of_mem_name {c : Char} (h : c ∈ scheme.name.toList) : c.isAlpha = true := by
  have hall : scheme.name.toList.all Char.isAlpha = true := by
    cases scheme with
    | http => rfl
    | https => rfl
  exact List.all_eq_true.mp hall c h

/-- One of the two schemes of the web stands in front of the rest, in letters of either case. -/
theorem schemed_web_iff : Schemed cs scheme.name.toList rest ↔
    ∃ spelled, cs = spelled ++ ':' :: rest ∧ spelled.map Char.toLower = scheme.name.toList := by
  constructor
  · intro h
    generalize hname : scheme.name.toList = name at h
    cases h with
    | mk _ _ => exact ⟨_, rfl, rfl⟩
  · rintro ⟨spelled, rfl, hspelled⟩
    -- a character whose small form is a letter is one, so the scheme ends at the colon
    have halpha : ∀ d ∈ spelled, d.isAlpha = true := by
      intro d hd
      have hlower : d.toLower ∈ scheme.name.toList := hspelled ▸ List.mem_map_of_mem hd
      rw [← Char.isAlpha_toLower_eq_isAlpha]
      exact isAlpha_of_mem_name hlower
    rw [← hspelled]
    cases spelled with
    | nil =>
        cases scheme with
        | http => cases hspelled
        | https => cases hspelled
    | cons c more =>
        rw [List.forall_mem_cons] at halpha
        exact .mk halpha.1 fun d hd => isSchemeChar_of_isAlpha (halpha.2 d hd)

/-! ### Addresses -/

/-- The text is the address: a scheme of the web in letters of either case, a colon, and what is
read as the rest of the address. -/
def Denotes (text : String) (e : Endpoint) : Prop :=
  ∃ spelled rest, clean text.toList = spelled ++ ':' :: rest ∧
    spelled.map Char.toLower = e.scheme.name.toList ∧ readWeb e.scheme rest = .ok e

/-- The text is an address with a scheme that is not of the web. -/
def Foreign (text name : String) : Prop :=
  (∀ scheme : Scheme, scheme.name ≠ name) ∧
    ∃ rest, Schemed (clean text.toList) name.toList rest ∧ checkForeign name rest = .ok ()

theorem read_of_not_schemed (h : ∀ name rest, ¬ Schemed (clean text.toList) name rest) :
    read text = .error (.unreadable .noScheme) := by
  have hnone : readScheme? (clean text.toList) = none := by
    rw [Option.eq_none_iff_forall_ne_some]
    rintro ⟨name, rest⟩ hsome
    exact h name rest (readScheme?_eq_some_iff.mp hsome)
  rw [read, readCharacters, hnone]

theorem read_of_web (h : Schemed (clean text.toList) scheme.name.toList rest) :
    read text = (readWeb scheme rest).mapError .unreadable := by
  rw [read, readCharacters, readScheme?_eq_some_iff.mpr h]
  cases scheme with
  | http => rfl
  | https => rfl

theorem read_of_foreign {name : String} (h : Schemed (clean text.toList) name.toList rest)
    (hname : ∀ scheme : Scheme, scheme.name ≠ name) :
    read text = match checkForeign name rest with
      | .error reason => .error (.unreadable reason)
      | .ok () => .error (.scheme name) := by
  have hhttp : name.toList ≠ "http".toList := fun h => hname .http (String.toList_inj.mp h).symm
  have hhttps : name.toList ≠ "https".toList := fun h => hname .https (String.toList_inj.mp h).symm
  rw [read, readCharacters, readScheme?_eq_some_iff.mpr h]
  cases hforeign : checkForeign name rest with
  | error reason => simp only [if_neg hhttp, if_neg hhttps, String.ofList_toList, hforeign]
  | ok u => simp only [if_neg hhttp, if_neg hhttps, String.ofList_toList, hforeign]

/-- A text has no scheme in front, one of the web, or another one. -/
theorem schemed_cases (cs : List Char) : (∀ name rest, ¬ Schemed cs name rest) ∨
    (∃ (scheme : Scheme) (rest : List Char), Schemed cs scheme.name.toList rest) ∨
    ∃ (name : String) (rest : List Char), Schemed cs name.toList rest ∧
      ∀ scheme : Scheme, scheme.name ≠ name := by
  by_cases hschemed : ∃ name rest, Schemed cs name rest
  · obtain ⟨name, rest, h⟩ := hschemed
    rw [← @String.toList_ofList name] at h
    by_cases hweb : ∃ scheme : Scheme, scheme.name = String.ofList name
    · obtain ⟨scheme, hname⟩ := hweb
      exact .inr (.inl ⟨scheme, rest, hname ▸ h⟩)
    · exact .inr (.inr ⟨_, rest, h, not_exists.mp hweb⟩)
  · exact .inl fun name rest h => hschemed ⟨name, rest, h⟩

theorem read_eq_ok_iff : read text = .ok e ↔ Denotes text e := by
  constructor
  · intro h
    obtain hnone | ⟨scheme, rest, hscheme⟩ | ⟨name, rest, hscheme, hname⟩ :=
      schemed_cases (clean text.toList)
    · rw [read_of_not_schemed hnone] at h
      cases h
    · obtain ⟨spelled, htext, hspelled⟩ := schemed_web_iff.mp hscheme
      rw [read_of_web hscheme, mapError_eq_ok_iff] at h
      obtain ⟨rfl, -⟩ := scheme_and_host_of_readWeb h
      exact ⟨spelled, rest, htext, hspelled, h⟩
    · rw [read_of_foreign hscheme hname] at h
      split at h
      · cases h
      · cases h
  · rintro ⟨spelled, rest, htext, hspelled, hweb⟩
    rw [read_of_web (schemed_web_iff.mpr ⟨spelled, htext, hspelled⟩), mapError_eq_ok_iff]
    exact hweb

theorem read_eq_scheme_iff {name : String} :
    read text = .error (.scheme name) ↔ Foreign text name := by
  constructor
  · intro h
    obtain hnone | ⟨scheme, rest, hscheme⟩ | ⟨name', rest, hscheme, hname⟩ :=
      schemed_cases (clean text.toList)
    · rw [read_of_not_schemed hnone] at h
      cases h
    · rw [read_of_web hscheme, mapError_eq_error_iff] at h
      obtain ⟨reason, -, h⟩ := h
      cases h
    · rw [read_of_foreign hscheme hname] at h
      split at h
      · cases h
      · next hforeign =>
          cases h
          exact ⟨hname, rest, hscheme, hforeign⟩
  · rintro ⟨hname, rest, hscheme, hforeign⟩
    rw [read_of_foreign hscheme hname, hforeign]

theorem Denotes.host_ne_nil (h : Denotes text e) : e.host.text ≠ [] := by
  obtain ⟨_, _, -, -, hweb⟩ := h
  exact (scheme_and_host_of_readWeb hweb).2

theorem Denotes.ne_empty (h : Denotes text e) : text ≠ "" := by
  rintro rfl
  obtain ⟨spelled, rest, htext, -⟩ := h
  exact List.append_ne_nil_of_right_ne_nil spelled (List.cons_ne_nil ':' rest) htext.symm

theorem Foreign.ne_empty {name : String} (h : Foreign text name) : text ≠ "" := by
  rintro rfl
  obtain ⟨-, rest, hscheme, -⟩ := h
  generalize hempty : clean "".toList = cs at hscheme
  generalize name.toList = small at hscheme
  cases hscheme with
  | mk _ _ => cases hempty

end Endpoint

end SqlGateway.Url
