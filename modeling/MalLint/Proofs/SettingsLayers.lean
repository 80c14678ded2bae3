import MalLint.Settings

/-! Settings in layers. The environment lies over the defaults, and overrides lie over both, one
after the other. What a layer says about a setting hides what is below it; where it says nothing,
what is below shows through. A layer is checked when it is put on: it is refused exactly if it
leaves no letters to try or a policy that is none. -/
namespace MalLint.SettingsLayers

/-- The names of the settings. -/
inductive Field where
  | endDuplicates
  | alphabet
  | sourceSuffix
  | reportSuffix
  | author
  | course
  | dateFormat
  deriving DecidableEq, Repr

/-- What a setting may be. -/
inductive Value where
  | policy (p : EndPolicy)
  /-- What is given for a policy and is none. -/
  | other (v : RawValue)
  | text (s : String)
  deriving DecidableEq, Repr

/-- What is given for the policy. -/
def Value.ofPolicy : PolicyValue → Value
  | .policy p => .policy p
  | .other v => .other v

/-- What the settings hold under a name; author and course may be left open. -/
def held (settings : Settings) : Field → Option Value
  | .endDuplicates => some (.policy settings.endDuplicates)
  | .alphabet => some (.text settings.alphabet)
  | .sourceSuffix => some (.text settings.sourceSuffix)
  | .reportSuffix => some (.text settings.reportSuffix)
  | .author => settings.author.map .text
  | .course => settings.course.map .text
  | .dateFormat => some (.text settings.dateFormat)

/-- What overrides say about a setting, if anything. -/
def asked (o : Overrides) : Field → Option Value
  | .endDuplicates => o.endDuplicates.map .ofPolicy
  | .alphabet => o.alphabet.map .text
  | .sourceSuffix => o.sourceSuffix.map .text
  | .reportSuffix => o.reportSuffix.map .text
  | .author => o.author.map .text
  | .course => o.course.map .text
  | .dateFormat => o.dateFormat.map .text

/-- What a setting comes to under overrides. -/
def resulting (settings : Settings) (o : Overrides) (field : Field) : Option Value :=
  (asked o field).or (held settings field)

/-- The overrides that say what both say, the second where both say something. -/
def merged (first second : Overrides) : Overrides where
  endDuplicates := second.endDuplicates.or first.endDuplicates
  alphabet := second.alphabet.or first.alphabet
  sourceSuffix := second.sourceSuffix.or first.sourceSuffix
  reportSuffix := second.reportSuffix.or first.reportSuffix
  author := second.author.or first.author
  course := second.course.or first.course
  dateFormat := second.dateFormat.or first.dateFormat

/-- The settings after one override on top of the other. -/
def overrideAll (settings : Settings) : List Overrides → Except SettingsError Settings
  | [] => .ok settings
  | o :: rest =>
    match settings.override o with
    | .error e => .error e
    | .ok later => overrideAll later rest

/-- The last that is said about a setting. -/
def lastAsked (layers : List Overrides) (field : Field) : Option Value :=
  (layers.filterMap (asked · field)).getLast?

/-- What putting a layer on can come to. -/
inductive Outcome (settings : Settings) (o : Overrides) : Except SettingsError Settings → Prop where
  | emptyAlphabet (empty : resulting settings o .alphabet = some (.text "")) :
      Outcome settings o (.error .emptyAlphabet)
  | invalidPolicy (letters : resulting settings o .alphabet ≠ some (.text ""))
      (wrong : resulting settings o .endDuplicates = some (.other v)) :
      Outcome settings o (.error (.invalidPolicy v))
  | done (letters : resulting settings o .alphabet ≠ some (.text ""))
      (policy : resulting settings o .endDuplicates = some (.policy p))
      (shown : ∀ field, held later field = resulting settings o field) :
      Outcome settings o (.ok later)

section Override

variable {settings later : Settings} {o : Overrides}

theorem held_injective (same : ∀ field, held settings field = held later field) :
    settings = later := by
  have texts : Function.Injective (Option.map Value.text) :=
    Option.map_injective fun _ _ equal => Value.text.inj equal
  have policy := Value.policy.inj (Option.some.inj (same .endDuplicates))
  have alphabet := Value.text.inj (Option.some.inj (same .alphabet))
  have source := Value.text.inj (Option.some.inj (same .sourceSuffix))
  have report := Value.text.inj (Option.some.inj (same .reportSuffix))
  have author := texts (same .author)
  have course := texts (same .course)
  have date := Value.text.inj (Option.some.inj (same .dateFormat))
  cases settings
  cases later
  simp only [Settings.mk.injEq]
  exact ⟨policy, alphabet, source, report, author, course, date⟩

theorem override_outcome (settings : Settings) (o : Overrides) :
    Outcome settings o (settings.override o) := by
  have alphabet : resulting settings o .alphabet =
      some (.text (o.alphabet.getD settings.alphabet)) := by
    cases given : o.alphabet <;> simp [resulting, asked, held, given]
  unfold Settings.override
  simp only
  split
  · rename_i empty
    exact .emptyAlphabet (by rw [alphabet, empty])
  · rename_i nonempty
    have letters : resulting settings o .alphabet ≠ some (.text "") := by
      simpa [alphabet] using nonempty
    split
    · rename_i kept
      have policy : resulting settings o .endDuplicates =
          some (.policy settings.endDuplicates) := by
        simp [resulting, asked, held, kept]
      refine .done letters policy fun field => ?_
      cases field <;> simp [resulting, asked, held, kept, Option.map_or]
    · rename_i p given
      have policy : resulting settings o .endDuplicates = some (.policy p) := by
        simp [resulting, asked, given, Value.ofPolicy]
      refine .done letters policy fun field => ?_
      cases field <;> simp [resulting, asked, held, given, Value.ofPolicy, Option.map_or]
    · rename_i v given
      have wrong : resulting settings o .endDuplicates = some (.other v) := by
        simp [resulting, asked, given, Value.ofPolicy]
      exact .invalidPolicy letters wrong

/-- The outcome is fixed by what the settings come to. -/
theorem Outcome.unique {others : Settings} {more : Overrides}
    (same : ∀ field, resulting settings o field = resulting others more field)
    (first : Outcome settings o result) (second : Outcome others more other) : result = other := by
  cases first with
  | emptyAlphabet empty =>
    rw [same] at empty
    cases second with
    | emptyAlphabet => rfl
    | invalidPolicy letters | done letters => exact absurd empty letters
  | invalidPolicy letters wrong =>
    rw [same] at letters wrong
    cases second with
    | emptyAlphabet empty => exact absurd empty letters
    | invalidPolicy _ again =>
      cases wrong.symm.trans again
      rfl
    | done _ policy => cases wrong.symm.trans policy
  | done letters policy shown =>
    rw [same] at letters policy
    cases second with
    | emptyAlphabet empty => exact absurd empty letters
    | invalidPolicy _ wrong => cases wrong.symm.trans policy
    | done _ _ shownToo =>
      congr 1
      refine held_injective fun field => ?_
      rw [shown, shownToo, same]

/-- A layer that is put on says what it says, and lets the rest show through. -/
theorem held_override (done : settings.override o = .ok later) (field : Field) :
    held later field = resulting settings o field := by
  have outcome := override_outcome settings o
  rw [done] at outcome
  cases outcome with
  | done _ _ shown => exact shown field

theorem override_fails_iff (settings : Settings) (o : Overrides) :
    (∃ e, settings.override o = .error e) ↔ resulting settings o .alphabet = some (.text "") ∨
      ¬ ∃ p, resulting settings o .endDuplicates = some (.policy p) := by
  have outcome := override_outcome settings o
  generalize settings.override o = result at outcome
  cases outcome with
  | emptyAlphabet empty => simp [empty]
  | invalidPolicy letters wrong => simp [wrong]
  | done letters policy => simp [letters, policy]

theorem asked_merged (first second : Overrides) (field : Field) :
    asked (merged first second) field = (asked second field).or (asked first field) := by
  cases field <;> exact Option.map_or

/-- Two layers, one on top of the other, are the one that says what both say. -/
theorem override_merged (done : settings.override first = .ok later) (second : Overrides) :
    later.override second = settings.override (merged first second) := by
  -- Only what the settings come to is checked, and that is the same on both ways.
  refine Outcome.unique (fun field => ?_) (override_outcome later second)
    (override_outcome settings (merged first second))
  rw [resulting, held_override done, resulting, resulting, asked_merged, Option.or_assoc]

end Override

section Sequences

variable {settings later : Settings}

theorem lastAsked_cons (o : Overrides) (rest : List Overrides) (field : Field) :
    lastAsked (o :: rest) field = (lastAsked rest field).or (asked o field) := by
  unfold lastAsked
  cases given : asked o field with
  | none => simp [given]
  | some value =>
    have shown : (o :: rest).filterMap (asked · field) = value :: rest.filterMap (asked · field) :=
      List.filterMap_cons_some given
    rw [shown, List.getLast?_cons]
    cases (rest.filterMap (asked · field)).getLast? <;> rfl

/-- Each setting is the last that was said about it. -/
theorem held_overrideAll {layers : List Overrides} (done : overrideAll settings layers = .ok later)
    (field : Field) : held later field = (lastAsked layers field).or (held settings field) := by
  induction layers generalizing settings with
  | nil =>
    cases done
    rfl
  | cons o rest ih =>
    cases put : settings.override o with
    | error e => simp [overrideAll, put] at done
    | ok middle =>
      simp only [overrideAll, put] at done
      rw [ih done, held_override put, resulting, lastAsked_cons, Option.or_assoc]

/-- The overrides name neither an empty alphabet nor a policy that is none. -/
def Acceptable (o : Overrides) : Prop :=
  asked o .alphabet ≠ some (.text "") ∧ ∀ v, asked o .endDuplicates ≠ some (.other v)

/-- Settings are sound before a layer is put on, so that only the layer can be at fault. -/
theorem override_succeeds_iff (settings : Settings) (o : Overrides) :
    (∃ later, settings.override o = .ok later) ↔ Acceptable o := by
  have alphabet : resulting settings o .alphabet = some (.text "") ↔
      asked o .alphabet = some (.text "") := by
    cases given : asked o .alphabet <;> simp [resulting, given, held, settings.alphabet_ne]
  have policy : (∃ p, resulting settings o .endDuplicates = some (.policy p)) ↔
      ∀ v, asked o .endDuplicates ≠ some (.other v) := by
    rcases given : o.endDuplicates with _ | p | v <;>
      simp [resulting, asked, held, given, Value.ofPolicy]
  have either : (∃ later, settings.override o = .ok later) ↔
      ¬ ∃ e, settings.override o = .error e := by
    cases settings.override o <;> simp
  rw [either, override_fails_iff, not_or, Classical.not_not, alphabet, policy, Acceptable]

theorem overrideAll_succeeds_iff (settings : Settings) (layers : List Overrides) :
    (∃ later, overrideAll settings layers = .ok later) ↔ ∀ o ∈ layers, Acceptable o := by
  induction layers generalizing settings with
  | nil => simp [overrideAll]
  | cons o rest ih =>
    rw [List.forall_mem_cons, ← override_succeeds_iff settings o]
    cases put : settings.override o with
    | error e => simp [overrideAll, put]
    | ok middle => simp [overrideAll, put, ih middle]

end Sequences

section Surroundings

/-- The variable that a setting is read from, if there is one. -/
def Field.source? : Field → Option String
  | .endDuplicates => some Environment.policyVariable
  | .alphabet => some Environment.alphabetVariable
  | .author => some Environment.authorVariable
  | .course => some Environment.courseVariable
  | .sourceSuffix | .reportSuffix | .dateFormat => none

/-- What the text of a variable says about a setting. -/
def Field.read (text : String) : Field → Option Value
  | .endDuplicates => (EndPolicy.ofName? text).map .policy
  | _ => some (.text text)

/-- What the environment says about a setting. -/
def surrounding (environment : Environment) (field : Field) : Option Value :=
  (field.source?.bind environment.value?).bind field.read

/-- What the environment says, one variable after the other. -/
def layers (environment : Environment) : List Overrides :=
  [{ endDuplicates :=
      ((environment.value? Environment.policyVariable).bind EndPolicy.ofName?).map .policy },
    { alphabet := environment.value? Environment.alphabetVariable },
    { author := environment.value? Environment.authorVariable },
    { course := environment.value? Environment.courseVariable }]

theorem surrounding_policy (environment : Environment) :
    surrounding environment .endDuplicates =
      ((environment.value? Environment.policyVariable).bind EndPolicy.ofName?).map .policy := by
  rw [Option.map_bind]
  rfl

theorem surrounding_text (environment : Environment) {field : Field}
    (other : field ≠ .endDuplicates) :
    surrounding environment field = (field.source?.bind environment.value?).map .text := by
  rw [Option.map_eq_bind, surrounding]
  cases field <;> first | rfl | exact absurd rfl other

theorem held_settings (environment : Environment) (field : Field) :
    held environment.settings field = (surrounding environment field).or (held {} field) := by
  cases field with
  | endDuplicates =>
    rw [surrounding_policy]
    cases read : (environment.value? Environment.policyVariable).bind EndPolicy.ofName? <;>
      simp [held, Environment.settings, read]
  | alphabet =>
    rw [surrounding_text environment (by simp)]
    cases read : environment.value? Environment.alphabetVariable <;>
      simp [held, Environment.settings, Environment.alphabet, Field.source?, read]
  | author | course =>
    rw [surrounding_text environment (by simp)]
    simp [held, Environment.settings, Field.source?]
  | sourceSuffix | reportSuffix | dateFormat => rfl

theorem lastAsked_layers (environment : Environment) (field : Field) :
    lastAsked (layers environment) field = surrounding environment field := by
  have nothing : lastAsked [] field = none := rfl
  cases field with
  | endDuplicates =>
    rw [surrounding_policy]
    simp [layers, lastAsked_cons, nothing, asked, Function.comp_def, Value.ofPolicy]
  | _ =>
    rw [surrounding_text environment (by simp)]
    simp [layers, lastAsked_cons, nothing, asked, Field.source?]

theorem layers_acceptable (environment : Environment) :
    ∀ o ∈ layers environment, Acceptable o := by
  have letters : environment.value? Environment.alphabetVariable ≠ some "" :=
    fun empty => Environment.value?_ne_empty empty rfl
  have policy (read : Option EndPolicy) (v : RawValue) :
      (read.map PolicyValue.policy).map Value.ofPolicy ≠ some (.other v) := by
    cases read <;> simp [Value.ofPolicy]
  intro o member
  simp only [layers, List.mem_cons, List.not_mem_nil, or_false] at member
  rcases member with rfl | rfl | rfl | rfl
  · exact ⟨by simp [asked], policy _⟩
  · exact ⟨by simp [asked, letters], by simp [asked]⟩
  · exact ⟨by simp [asked], by simp [asked]⟩
  · exact ⟨by simp [asked], by simp [asked]⟩

/-- The variables can be read one after the other, and none is refused. -/
theorem overrideAll_layers (environment : Environment) :
    overrideAll {} (layers environment) = .ok environment.settings := by
  obtain ⟨later, done⟩ := (overrideAll_succeeds_iff {} _).mpr (layers_acceptable environment)
  have same : later = environment.settings := by
    refine held_injective fun field => ?_
    rw [held_overrideAll done, held_settings, lastAsked_layers]
  rw [done, same]

/-- A setting hangs on the variable that it is read from, and on no other. -/
theorem held_of_lookup {first second : Environment} {field : Field}
    (same : ∀ name ∈ field.source?, first.lookup name = second.lookup name) :
    held first.settings field = held second.settings field := by
  have read : field.source?.bind first.value? = field.source?.bind second.value? := by
    cases named : field.source? with
    | none => rfl
    | some name => simp [Environment.value?, same name named]
  rw [held_settings, held_settings, surrounding, surrounding, read]

theorem held_default (environment : Environment) {field : Field} (unnamed : field.source? = none) :
    held environment.settings field = held {} field := by
  simp [held_settings, surrounding, unnamed]

end Surroundings

/-- Settings are made in layers. The variables of an environment are put on the defaults one after
the other; none is refused, each setting hangs on its own variable only, and where it has none it
keeps its default. After any overrides that are put on, each setting is the last that was said about
it, and two overrides are the one that says what both say. Overrides are refused exactly if they
leave no letters or a policy that is none; so all settings that can be had have letters and a
policy. -/
theorem settings_made_in_layers :
    (∀ environment, overrideAll {} (layers environment) = .ok environment.settings) ∧
    (∀ (first second : Environment) (field : Field),
      (∀ name ∈ field.source?, first.lookup name = second.lookup name) →
      held first.settings field = held second.settings field) ∧
    (∀ (environment : Environment) (field : Field), field.source? = none →
      held environment.settings field = held {} field) ∧
    (∀ settings given later, overrideAll settings given = .ok later → ∀ field,
      held later field = (lastAsked given field).or (held settings field)) ∧
    (∀ (settings later : Settings) first second, settings.override first = .ok later →
      later.override second = settings.override (merged first second)) ∧
    (∀ (settings : Settings) o, (∃ e, settings.override o = .error e) ↔
      resulting settings o .alphabet = some (.text "") ∨
        ¬ ∃ p, resulting settings o .endDuplicates = some (.policy p)) ∧
    (∀ (environment : Environment) given later,
      overrideAll environment.settings given = .ok later →
      held later .alphabet ≠ some (.text "") ∧
        ∃ p, held later .endDuplicates = some (.policy p)) := by
  refine ⟨overrideAll_layers, fun first second field same => held_of_lookup same,
    fun environment field unnamed => held_default environment unnamed,
    fun settings given later done => held_overrideAll done,
    fun settings later first second done => override_merged done second, override_fails_iff,
    fun environment given later done => ⟨?_, later.endDuplicates, rfl⟩⟩
  simpa [held] using later.alphabet_ne

/-- An environment with a policy in capitals and an empty course, under an author who is named and
then left empty. -/
theorem settings_made_in_layers_author :
    let environment : Environment :=
      [("MALCHECK_END_DUPLICATES", "LEGACY"), ("MALCHECK_COURSE", "")]
    let other : Environment :=
      [("MALCHECK_ALPHABET", "XYZ"), ("MALCHECK_END_DUPLICATES", "LEGACY")]
    let first : Overrides := { author := some "A", course := some "C" }
    let second : Overrides := { author := some "" }
    held environment.settings .endDuplicates = held other.settings .endDuplicates ∧
    held environment.settings .sourceSuffix = held {} .sourceSuffix ∧
    ∃ middle last, environment.settings.override first = .ok middle ∧
      middle.override second = environment.settings.override (merged first second) ∧
      overrideAll environment.settings [first, second] = .ok last ∧
      held last .author = some (.text "") ∧ held last .alphabet ≠ some (.text "") := by
  intro environment other first second
  let middle : Settings := { endDuplicates := .legacy, author := some "A", course := some "C" }
  let last : Settings := { endDuplicates := .legacy, author := some "", course := some "C" }
  have put : environment.settings.override first = .ok middle := rfl
  have done : overrideAll environment.settings [first, second] = .ok last := rfl
  obtain ⟨-, own, default, shown, merge, -, sound⟩ := settings_made_in_layers
  exact ⟨own environment other .endDuplicates (by decide),
    default environment .sourceSuffix rfl, middle, last, put, merge _ _ _ second put, done,
    (shown _ _ _ done .author).trans (by decide), (sound environment _ _ done).1⟩

end MalLint.SettingsLayers
