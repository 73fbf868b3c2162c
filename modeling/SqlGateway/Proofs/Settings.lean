import SqlGateway.Proofs.Except
import SqlGateway.Proofs.Text.Numeral
import SqlGateway.Proofs.Text.Trim
import SqlGateway.Settings

/-! What settings are read from the variables, and what is told where there are none. The settings
that the variables describe are told apart from whether they are accepted: a variable that should
be a number and is none leaves nothing to check, and the first of those is the one reported. -/
namespace SqlGateway.Settings

variable {lookup : String → Option String} {which : Variable} {kind : NumberKind}
  {text : String} {n : UInt64} {reason : Text.NumeralError} {e : SettingsError}

/-! ### The number in a variable -/

/-- The text is a number with blanks around it, or without. -/
def Tells (text : String) (n : UInt64) : Prop :=
  ∃ core, Text.Trimmed text.toList core ∧ Text.Spells core n

/-- What is between the blanks is no number, for the given reason. -/
def TellsNone (text : String) (reason : Text.NumeralError) : Prop :=
  ∃ core, Text.Trimmed text.toList core ∧ Text.Misspells core reason

theorem readUInt64_trim_eq_ok_iff : Text.readUInt64 (Text.trim text) = .ok n ↔ Tells text n := by
  rw [Text.readUInt64_eq_ok_iff, Text.trim, String.toList_ofList, Tells, Text.exists_trimmed_iff]

theorem readUInt64_trim_eq_error_iff :
    Text.readUInt64 (Text.trim text) = .error reason ↔ TellsNone text reason := by
  rw [Text.readUInt64_eq_error_iff, Text.trim, String.toList_ofList, TellsNone,
    Text.exists_trimmed_iff]

/-- A setting is what its variable says, or stays what it is where the variable is unset. -/
inductive Follows {α : Type} (lookup : String → Option String) (which : Variable)
    (ofNumber : UInt64 → α) (unset : α) : α → Prop
  | unset : lookup which.name = none → Follows lookup which ofNumber unset unset
  | given {text : String} {n : UInt64} : lookup which.name = some text → Tells text n →
      Follows lookup which ofNumber unset (ofNumber n)

/-- If the variable is set, there is a number in it. -/
def Readable (lookup : String → Option String) (which : Variable) : Prop :=
  ∀ text, lookup which.name = some text → ∃ n, Tells text n

/-- The error of a variable that is set and has no number in it. -/
inductive Bad (lookup : String → Option String) (which : Variable) (kind : NumberKind) :
    SettingsError → Prop
  | mk {text : String} {reason : Text.NumeralError} : lookup which.name = some text →
      TellsNone text reason → Bad lookup which kind (.number which.name kind reason)

theorem readVariable_eq_ok_iff {o : Option UInt64} :
    readVariable lookup which kind = .ok o ↔ Follows lookup which some none o := by
  rw [readVariable]
  constructor
  · intro h
    split at h
    next hunset =>
      obtain rfl := Except.ok.inj h
      exact .unset hunset
    next text hset =>
      split at h
      next n hn =>
        obtain rfl := Except.ok.inj h
        exact .given hset (readUInt64_trim_eq_ok_iff.mp hn)
      next => cases h
  · intro h
    cases h with
    | unset hunset => rw [hunset]
    | given hset hn => rw [hset]; simp only [readUInt64_trim_eq_ok_iff.mpr hn]

example : readVariable (fun _ => some "\u3000+007 ") .poolSize .count = .ok (some 7) := by cbv

theorem readVariable_eq_error_iff :
    readVariable lookup which kind = .error e ↔ Bad lookup which kind e := by
  rw [readVariable]
  constructor
  · intro h
    split at h
    next => cases h
    next text hset =>
      split at h
      next => cases h
      next reason hreason =>
        obtain rfl := Except.error.inj h
        exact .mk hset (readUInt64_trim_eq_error_iff.mp hreason)
  · intro h
    cases h with
    | mk hset hreason => rw [hset]; simp only [readUInt64_trim_eq_error_iff.mpr hreason]

theorem exists_readVariable_iff :
    (∃ o, readVariable lookup which kind = .ok o) ↔ Readable lookup which := by
  constructor
  · rintro ⟨o, ho⟩ text htext
    cases readVariable_eq_ok_iff.mp ho with
    | unset hunset => rw [hunset] at htext; cases htext
    | given hset hn =>
        rw [hset] at htext
        cases htext
        exact ⟨_, hn⟩
  · intro h
    cases hset : lookup which.name with
    | none => exact ⟨none, readVariable_eq_ok_iff.mpr (.unset hset)⟩
    | some text =>
        obtain ⟨n, hn⟩ := h text hset
        exact ⟨some n, readVariable_eq_ok_iff.mpr (.given hset hn)⟩

theorem exists_bad_iff : (∃ e, Bad lookup which kind e) ↔ ¬ Readable lookup which := by
  rw [← @exists_readVariable_iff lookup which kind]
  simp only [← readVariable_eq_error_iff]
  cases readVariable lookup which kind with
  | error e => exact ⟨fun _ ⟨_, ho⟩ => (nomatch ho), fun _ => ⟨e, rfl⟩⟩
  | ok o => exact ⟨fun ⟨_, he⟩ => (nomatch he), fun h => absurd ⟨o, rfl⟩ h⟩

/-- A setting follows a variable through the number that is read from it. -/
theorem follows_iff {α : Type} {ofNumber : UInt64 → α} {unset a : α} :
    Follows lookup which ofNumber unset a ↔
      ∃ o, readVariable lookup which kind = .ok o ∧ o.elim unset ofNumber = a := by
  constructor
  · intro h
    cases h with
    | unset hunset => exact ⟨none, readVariable_eq_ok_iff.mpr (.unset hunset), rfl⟩
    | @given _ n hset hn => exact ⟨some n, readVariable_eq_ok_iff.mpr (.given hset hn), rfl⟩
  · rintro ⟨o, ho, rfl⟩
    cases readVariable_eq_ok_iff.mp ho with
    | unset hunset => exact .unset hunset
    | given hset hn => exact .given hset hn

/-- A setting may be told by a number that belongs to no other. -/
theorem follows_image_iff {α β : Type} {image : α → β} (himage : ∀ a b, image a = image b → a = b)
    {ofNumber : UInt64 → α} {unset a : α} :
    Follows lookup which (fun n => image (ofNumber n)) (image unset) (image a) ↔
      Follows lookup which ofNumber unset a := by
  constructor
  · intro h
    generalize himaged : image a = b at h
    cases h with
    | unset hunset =>
        obtain rfl := himage _ _ himaged
        exact .unset hunset
    | given hset hn =>
        obtain rfl := himage _ _ himaged
        exact .given hset hn
  · intro h
    cases h with
    | unset hunset => exact .unset hunset
    | given hset hn => exact .given hset hn

/-! ### The settings that the variables describe -/

/-- Every setting is the one that its variable asks for. A variable counts milliseconds, and spans
of time are told in nanoseconds. -/
structure Described (lookup : String → Option String) (s : Settings) : Prop where
  endpoint : s.endpoint =
    (lookup Variable.endpoint.name).getD "http://localhost:3000/api/db/query"
  requestTimeout : Follows lookup .requestTimeout (fun n => n.toNat * 1000000) 30000000000
    s.requestTimeout.nanos
  connectTimeout : Follows lookup .connectTimeout (fun n => n.toNat * 1000000) 2000000000
    s.connectTimeout.nanos
  poolSize : Follows lookup .poolSize (fun n => n.toNat) 20 s.poolSize.toNat
  poolIdleTimeout : Follows lookup .poolIdleTimeout (fun n => n.toNat * 1000000) 30000000000
    s.poolIdleTimeout.nanos
  bearer : ∀ token, s.bearer = some token ↔
    lookup Variable.bearer.name = some token ∧ token ≠ ""
  userAgent : s.userAgent = "shimdb/0.3.0"

theorem follows_nanos_iff (unset : Duration) {d : Duration} :
    Follows lookup which (fun n => n.toNat * 1000000) unset.nanos d.nanos ↔
      ∃ o, readVariable lookup which .milliseconds = .ok o ∧
        (o.elim unset fun n => .ofMillis n.toNat) = d :=
  (follows_image_iff fun _ _ => Duration.ext).trans follows_iff

theorem follows_toNat_iff (unset : UInt64) {size : UInt64} :
    Follows lookup which (fun n => n.toNat) unset.toNat size.toNat ↔
      ∃ o, readVariable lookup which .count = .ok o ∧ o.elim unset id = size :=
  (follows_image_iff fun _ _ => UInt64.toNat.inj).trans follows_iff

/-- The settings with the given numbers, each of them the default where there is none. -/
def withNumbers (lookup : String → Option String)
    (requestTimeout connectTimeout poolSize poolIdleTimeout : Option UInt64) : Settings :=
  { endpoint := (lookup Variable.endpoint.name).getD default.endpoint
    requestTimeout := requestTimeout.elim default.requestTimeout fun n => .ofMillis n.toNat
    connectTimeout := connectTimeout.elim default.connectTimeout fun n => .ofMillis n.toNat
    poolSize := poolSize.elim default.poolSize id
    poolIdleTimeout := poolIdleTimeout.elim default.poolIdleTimeout fun n => .ofMillis n.toNat
    bearer := (lookup Variable.bearer.name).filter (!·.isEmpty)
    userAgent := default.userAgent }

theorem readDuration_bind {α : Type} (unset : Duration)
    (next : Duration → Except SettingsError α) :
    (readDuration lookup which unset >>= next) =
      readVariable lookup which .milliseconds >>= fun o =>
        next (o.elim unset fun n => .ofMillis n.toNat) := by
  rw [readDuration]
  cases readVariable lookup which .milliseconds with
  | error e => rfl
  | ok o => cases o <;> rfl

/-- The numbers are read one after the other, and the settings are checked after the last. -/
theorem read_eq (lookup : String → Option String) :
    read lookup =
      readVariable lookup .requestTimeout .milliseconds >>= fun requestTimeout =>
      readVariable lookup .connectTimeout .milliseconds >>= fun connectTimeout =>
      readVariable lookup .poolSize .count >>= fun poolSize =>
      readVariable lookup .poolIdleTimeout .milliseconds >>= fun poolIdleTimeout =>
      let s := withNumbers lookup requestTimeout connectTimeout poolSize poolIdleTimeout
      s.check >>= fun _ => .ok s := by
  have hsize (o : Option UInt64) : o.getD default.poolSize = o.elim default.poolSize id := by
    cases o <;> rfl
  simp only [read, readDuration_bind, hsize]
  rfl

theorem filter_nonempty_eq_iff {given token : Option String} :
    given.filter (!·.isEmpty) = token ↔ ∀ t, token = some t ↔ given = some t ∧ t ≠ "" := by
  have hfilter (t : String) :
      given.filter (!·.isEmpty) = some t ↔ given = some t ∧ t ≠ "" := by
    rw [Option.filter_eq_some_iff, Bool.not_eq_true', ← Bool.not_eq_true, String.isEmpty_iff]
  constructor
  · rintro rfl
    exact hfilter
  · intro h
    exact Option.ext fun t => (hfilter t).trans (h t).symm

/-- The variables describe the settings that have the numbers read from them. -/
theorem described_iff {s : Settings} :
    Described lookup s ↔
      ∃ requestTimeout, readVariable lookup .requestTimeout .milliseconds = .ok requestTimeout ∧
      ∃ connectTimeout, readVariable lookup .connectTimeout .milliseconds = .ok connectTimeout ∧
      ∃ poolSize, readVariable lookup .poolSize .count = .ok poolSize ∧
      ∃ poolIdleTimeout,
        readVariable lookup .poolIdleTimeout .milliseconds = .ok poolIdleTimeout ∧
        withNumbers lookup requestTimeout connectTimeout poolSize poolIdleTimeout = s := by
  constructor
  · intro h
    obtain ⟨requestTimeout, hrequest, hrequest'⟩ :=
      (follows_nanos_iff default.requestTimeout).mp h.requestTimeout
    obtain ⟨connectTimeout, hconnect, hconnect'⟩ :=
      (follows_nanos_iff default.connectTimeout).mp h.connectTimeout
    obtain ⟨poolSize, hsize, hsize'⟩ := (follows_toNat_iff default.poolSize).mp h.poolSize
    obtain ⟨poolIdleTimeout, hidle, hidle'⟩ :=
      (follows_nanos_iff default.poolIdleTimeout).mp h.poolIdleTimeout
    have hendpoint : (lookup Variable.endpoint.name).getD default.endpoint = s.endpoint :=
      h.endpoint.symm
    have huser : default.userAgent = s.userAgent := h.userAgent.symm
    refine ⟨_, hrequest, _, hconnect, _, hsize, _, hidle, ?_⟩
    rw [withNumbers, hrequest', hconnect', hsize', hidle', hendpoint, huser,
      filter_nonempty_eq_iff.mpr h.bearer]
  · rintro ⟨_, hrequest, _, hconnect, _, hsize, _, hidle, rfl⟩
    exact
      { endpoint := rfl
        requestTimeout := (follows_nanos_iff default.requestTimeout).mpr ⟨_, hrequest, rfl⟩
        connectTimeout := (follows_nanos_iff default.connectTimeout).mpr ⟨_, hconnect, rfl⟩
        poolSize := (follows_toNat_iff default.poolSize).mpr ⟨_, hsize, rfl⟩
        poolIdleTimeout := (follows_nanos_iff default.poolIdleTimeout).mpr ⟨_, hidle, rfl⟩
        bearer := filter_nonempty_eq_iff.mp rfl
        userAgent := rfl }

theorem exists_described_and_iff {holds : Settings → Prop} :
    (∃ s, Described lookup s ∧ holds s) ↔
      ∃ requestTimeout, readVariable lookup .requestTimeout .milliseconds = .ok requestTimeout ∧
      ∃ connectTimeout, readVariable lookup .connectTimeout .milliseconds = .ok connectTimeout ∧
      ∃ poolSize, readVariable lookup .poolSize .count = .ok poolSize ∧
      ∃ poolIdleTimeout,
        readVariable lookup .poolIdleTimeout .milliseconds = .ok poolIdleTimeout ∧
        holds (withNumbers lookup requestTimeout connectTimeout poolSize poolIdleTimeout) := by
  constructor
  · rintro ⟨s, hs, h⟩
    obtain ⟨_, hrequest, _, hconnect, _, hsize, _, hidle, rfl⟩ := described_iff.mp hs
    exact ⟨_, hrequest, _, hconnect, _, hsize, _, hidle, h⟩
  · rintro ⟨_, hrequest, _, hconnect, _, hsize, _, hidle, h⟩
    exact ⟨_, described_iff.mpr ⟨_, hrequest, _, hconnect, _, hsize, _, hidle, rfl⟩, h⟩

/-- The variables that are numbers, in the order in which they are read. -/
def numbers : List (Variable × NumberKind) :=
  [(.requestTimeout, .milliseconds), (.connectTimeout, .milliseconds), (.poolSize, .count),
    (.poolIdleTimeout, .milliseconds)]

/-- There are settings for the variables just where all the numbers are readable. -/
theorem exists_described_iff :
    (∃ s, Described lookup s) ↔ ∀ number ∈ numbers, Readable lookup number.1 := by
  have hfour : (∀ number ∈ numbers, Readable lookup number.1) ↔
      Readable lookup .requestTimeout ∧ Readable lookup .connectTimeout ∧
        Readable lookup .poolSize ∧ Readable lookup .poolIdleTimeout := by simp [numbers]
  rw [hfour]
  constructor
  · rintro ⟨s, hs⟩
    obtain ⟨_, hrequest, _, hconnect, _, hsize, _, hidle, -⟩ := described_iff.mp hs
    exact ⟨exists_readVariable_iff.mp ⟨_, hrequest⟩, exists_readVariable_iff.mp ⟨_, hconnect⟩,
      exists_readVariable_iff.mp ⟨_, hsize⟩, exists_readVariable_iff.mp ⟨_, hidle⟩⟩
  · rintro ⟨hrequest, hconnect, hsize, hidle⟩
    obtain ⟨_, hrequest⟩ := exists_readVariable_iff.mpr hrequest
    obtain ⟨_, hconnect⟩ := exists_readVariable_iff.mpr hconnect
    obtain ⟨_, hsize⟩ := exists_readVariable_iff.mpr hsize
    obtain ⟨_, hidle⟩ := exists_readVariable_iff.mpr hidle
    exact ⟨_, described_iff.mpr ⟨_, hrequest, _, hconnect, _, hsize, _, hidle, rfl⟩⟩

/-- A variable has one number, so a setting is one thing. -/
theorem Described.eq {s s' : Settings} (h : Described lookup s) (h' : Described lookup s') :
    s = s' := by
  obtain ⟨_, hrequest, _, hconnect, _, hsize, _, hidle, rfl⟩ := described_iff.mp h
  obtain ⟨_, hrequest', _, hconnect', _, hsize', _, hidle', rfl⟩ := described_iff.mp h'
  rw [Except.ok.inj (hrequest.symm.trans hrequest'), Except.ok.inj (hconnect.symm.trans hconnect'),
    Except.ok.inj (hsize.symm.trans hsize'), Except.ok.inj (hidle.symm.trans hidle')]

/-! ### What is read, and what is told -/

/-- The error of the first variable that is not readable. -/
inductive FirstBad (lookup : String → Option String) :
    List (Variable × NumberKind) → SettingsError → Prop
  | here {which : Variable} {kind : NumberKind} {rest : List (Variable × NumberKind)}
      {e : SettingsError} : Bad lookup which kind e → FirstBad lookup ((which, kind) :: rest) e
  | later {which : Variable} {kind : NumberKind} {rest : List (Variable × NumberKind)}
      {e : SettingsError} : Readable lookup which → FirstBad lookup rest e →
      FirstBad lookup ((which, kind) :: rest) e

theorem exists_firstBad_iff {rest : List (Variable × NumberKind)} :
    (∃ e, FirstBad lookup rest e) ↔ ¬ ∀ number ∈ rest, Readable lookup number.1 := by
  induction rest with
  | nil => exact ⟨fun ⟨_, h⟩ => (nomatch h), fun h => absurd (List.forall_mem_nil _) h⟩
  | cons number rest ih =>
      rw [List.forall_mem_cons]
      constructor
      · rintro ⟨e, h⟩ ⟨hnumber, hrest⟩
        cases h with
        | here hbad => exact exists_bad_iff.mp ⟨e, hbad⟩ hnumber
        | later _ h => exact ih.mp ⟨e, h⟩ hrest
      · intro h
        by_cases hnumber : Readable lookup number.1
        · obtain ⟨e, he⟩ := ih.mpr fun hrest => h ⟨hnumber, hrest⟩
          exact ⟨e, .later hnumber he⟩
        · obtain ⟨e, he⟩ := exists_bad_iff.mpr hnumber
          exact ⟨e, .here he⟩

/-- One variable more is read in front of the others. -/
theorem readVariable_bind_eq_error_iff {α : Type} {rest : List (Variable × NumberKind)}
    {next : Option UInt64 → Except SettingsError α} {fails : Option UInt64 → Prop}
    (hnext : ∀ o, next o = .error e ↔ FirstBad lookup rest e ∨ fails o) :
    (readVariable lookup which kind >>= next) = .error e ↔
      FirstBad lookup ((which, kind) :: rest) e ∨
        ∃ o, readVariable lookup which kind = .ok o ∧ fails o := by
  rw [bind_eq_error_iff, readVariable_eq_error_iff]
  simp only [hnext]
  constructor
  · rintro (hbad | ⟨o, ho, hrest | hfails⟩)
    · exact .inl (.here hbad)
    · exact .inl (.later (exists_readVariable_iff.mp ⟨o, ho⟩) hrest)
    · exact .inr ⟨o, ho, hfails⟩
  · rintro (h | ⟨o, ho, hfails⟩)
    · cases h with
      | here hbad => exact .inl hbad
      | later hreadable hrest =>
          obtain ⟨o, ho⟩ := exists_readVariable_iff.mpr hreadable
          exact .inr ⟨o, ho, .inl hrest⟩
    · exact .inr ⟨o, ho, .inr hfails⟩

theorem check_bind_eq_ok_iff {s s' : Settings} :
    (s.check >>= fun _ => Except.ok s) = .ok s' ↔ s.check = .ok () ∧ s = s' := by
  rw [bind_eq_ok_iff]
  exact ⟨fun ⟨_, hcheck, h⟩ => ⟨hcheck, Except.ok.inj h⟩, fun h => ⟨(), h.1, congrArg _ h.2⟩⟩

theorem check_bind_eq_error_iff {s : Settings} :
    (s.check >>= fun _ => Except.ok s) = .error e ↔ FirstBad lookup [] e ∨ s.check = .error e := by
  rw [bind_eq_error_iff]
  constructor
  · rintro (h | ⟨_, _, h⟩)
    · exact .inr h
    · cases h
  · rintro (h | h)
    · cases h
    · exact .inl h

theorem read_eq_ok_iff {s : Settings} :
    read lookup = .ok s ↔ Described lookup s ∧ s.check = .ok () := by
  have hsome : Described lookup s ∧ s.check = .ok () ↔
      ∃ s', Described lookup s' ∧ s'.check = .ok () ∧ s' = s := by
    constructor
    · rintro ⟨hs, hcheck⟩
      exact ⟨s, hs, hcheck, rfl⟩
    · rintro ⟨_, hs, hcheck, rfl⟩
      exact ⟨hs, hcheck⟩
  rw [hsome, exists_described_and_iff, read_eq]
  simp only [@bind_eq_ok_iff _ (Option UInt64), check_bind_eq_ok_iff]

theorem read_eq_error_iff :
    read lookup = .error e ↔
      FirstBad lookup numbers e ∨ ∃ s, Described lookup s ∧ s.check = .error e := by
  rw [exists_described_and_iff, read_eq, numbers]
  exact readVariable_bind_eq_error_iff fun requestTimeout =>
    readVariable_bind_eq_error_iff fun connectTimeout =>
    readVariable_bind_eq_error_iff fun poolSize =>
    readVariable_bind_eq_error_iff fun poolIdleTimeout => check_bind_eq_error_iff

/-- Settings are read where they are described and accepted. The error is that of the first
variable that should be a number and is none, and that of the check where there is no such
variable: then, and only then, there are settings that the variables describe, and no others. -/
theorem read_is_exact (lookup : String → Option String) :
    (∀ s, read lookup = .ok s ↔ Described lookup s ∧ s.check = .ok ()) ∧
    (∀ e, read lookup = .error e ↔
      FirstBad lookup numbers e ∨ ∃ s, Described lookup s ∧ s.check = .error e) ∧
    ((∃ e, FirstBad lookup numbers e) ↔ ¬ ∀ number ∈ numbers, Readable lookup number.1) ∧
    ((∃ s, Described lookup s) ↔ ∀ number ∈ numbers, Readable lookup number.1) ∧
    ∀ s s', Described lookup s → Described lookup s' → s = s' :=
  ⟨fun _ => read_eq_ok_iff, fun _ => read_eq_error_iff, exists_firstBad_iff,
    exists_described_iff, fun _ _ => Described.eq⟩

/-- Blanks, a sign and leading zeros do not count, and an empty token is none. -/
theorem settings_of_set_variables :
    let lookup : String → Option String := fun name =>
      if name = "SHIMDB_ENDPOINT" then some "https://localhost/query"
      else if name = "SHIMDB_REQUEST_TIMEOUT_MS" then some "\u3000+0015 "
      else if name = "SHIMDB_POOL_MAX_IDLE" then some "007"
      else if name = "SHIMDB_BEARER_TOKEN" then some ""
      else none
    let s : Settings :=
      { endpoint := "https://localhost/query"
        requestTimeout := ⟨15000000⟩
        connectTimeout := ⟨2000000000⟩
        poolSize := 7
        poolIdleTimeout := ⟨30000000000⟩
        bearer := none
        userAgent := "shimdb/0.3.0" }
    read lookup = .ok s := by
  intro lookup s
  have hrequest : lookup Variable.requestTimeout.name = some "\u3000+0015 " := rfl
  have hfifteen : Tells "\u3000+0015 " 15 := readUInt64_trim_eq_ok_iff.mp rfl
  have hpool : lookup Variable.poolSize.name = some "007" := rfl
  have hseven : Tells "007" 7 := readUInt64_trim_eq_ok_iff.mp rfl
  have hdescribed : Described lookup s :=
    { endpoint := rfl
      requestTimeout := .given hrequest hfifteen
      connectTimeout := .unset rfl
      poolSize := .given hpool hseven
      poolIdleTimeout := .unset rfl
      bearer := filter_nonempty_eq_iff.mp rfl
      userAgent := rfl }
  have hchecked : s.check.toBool = true := by decide +kernel
  obtain ⟨u, hcheck⟩ := exists_of_toBool hchecked
  exact ((read_is_exact lookup).1 s).mpr ⟨hdescribed, hcheck⟩

end SqlGateway.Settings
