import NodeExt2fs.Construction.Js.Settings

/-!
This file says which settings of a caller take effect.
-/

namespace NodeExt2fs.Settings
open Js

variable {runtime : Runtime} {argument : Argument} {defaults options : Object}

theorem orElse_of_ne {value default : Value} (specified : value ≠ .undefined) :
    value.orElse default = value := if_pos specified

@[simp] theorem undefined_orElse (default : Value) : Value.undefined.orElse default = default := rfl

@[simp] theorem orElse_undefined (value : Value) : value.orElse .undefined = value := by
  by_cases specified : value ≠ .undefined
  · exact orElse_of_ne specified
  · rw [not_not.mp specified]
    rfl

@[simp] theorem of_nil (property : Property) : Object.of [] property = .undefined := rfl

@[simp] theorem of_cons (property other : Property) (value : Value)
    (rest : List (Property × Value)) : Object.of ((property, value) :: rest) other =
      if other = property then value else Object.of rest other := by
  by_cases same : other = property
  · simp [Object.of, same]
  · have unequal : (other == property) = false := beq_false_of_ne same
    simp [Object.of, List.lookup_cons, unequal, same]

/-- An encoding passes when it is `buffer`, falsy, or known. -/
def EncodingFits (runtime : Runtime) (encoding : Value) : Prop :=
  encoding = .text "buffer" ∨ encoding.isFalsy = true ∨ runtime.isEncoding encoding = true

theorem mergeOptions_ok_iff {merged : Object} :
    mergeOptions runtime options defaults = .ok merged ↔
      EncodingFits runtime (options .encoding) ∧ merged = options.spread defaults := by
  rw [mergeOptions, assertEncoding, EncodingFits]
  generalize options .encoding = encoding
  have spread : (pure (options.spread defaults) : Except Failure Object) = .ok merged ↔
      merged = options.spread defaults := by
    apply Iff.intro
    · intro same
      exact (Except.ok.inj same).symm
    · intro same
      rw [same]
      rfl
  by_cases buffer : encoding = .text "buffer"
  · rw [if_neg (not_not.mpr buffer), and_iff_right (.inl buffer)]
    exact spread
  · rw [if_pos buffer]
    by_cases unknown : (!encoding.isFalsy && !runtime.isEncoding encoding) = true
    · rw [if_pos unknown]
      apply iff_of_false
      · intro same
        cases same
      · simp at unknown
        simp [buffer, unknown]
    · rw [if_neg unknown, and_iff_right]
      · exact spread
      · simp only [Bool.and_eq_true, Bool.not_eq_true', not_and_or, Bool.not_eq_false] at unknown
        exact .inr unknown

/-- The argument is a string, an object or missing, and its encoding passes. -/
def Argument.Fits (runtime : Runtime) (argument : Argument) : Prop :=
  (∀ type, argument ≠ .other type) ∧ EncodingFits runtime (argument.given .encoding)

/-- The defaults come before what the caller specifies. -/
theorem getOptions_ok_iff {merged : Object} :
    getOptions runtime argument defaults = .ok merged ↔
      argument.Fits runtime ∧ merged = argument.given.spread defaults := by
  cases argument with
  | missing =>
      have fits : Argument.Fits runtime .missing := by
        apply And.intro
        · intro _ other
          cases other
        · exact .inr (.inl rfl)
      have same : (Argument.missing.given).spread defaults = defaults := by
        funext property
        rw [Object.spread]
        by_cases specified : defaults property = .undefined
        · rw [specified]
          rfl
        · exact orElse_of_ne specified
      rw [same]
      simp [getOptions, fits, eq_comm]
  | text encoding =>
      have same : Object.spread (Function.update defaults .encoding (.text encoding)) defaults =
          (Argument.text encoding).given.spread defaults := by
        funext property
        rw [Object.spread, Object.spread]
        by_cases specified : defaults property = .undefined
        · by_cases named : property = .encoding
          · rw [named, Function.update_self]
            rfl
          · rw [Function.update_of_ne named, specified]
            simp [Argument.given, named]
        · rw [orElse_of_ne specified, orElse_of_ne specified]
      have fits : (Argument.text encoding).Fits runtime ↔ EncodingFits runtime (.text encoding) :=
        and_iff_right fun _ other => by cases other
      rw [getOptions, mergeOptions_ok_iff, same, Function.update_self, fits]
  | object options =>
      have fits : (Argument.object options).Fits runtime ↔ EncodingFits runtime (options .encoding) :=
        and_iff_right fun _ other => by cases other
      rw [getOptions, mergeOptions_ok_iff, fits]
      rfl
  | other type =>
      apply iff_of_false
      · intro merged
        cases merged
      · intro merged
        exact merged.1.1 type rfl

/-- The default options that come last and that the call looks at. -/
def Operation.overrides : Operation → Object
  | .readFile => readFileDefaults
  | .writeFile => writeFileDefaults
  | .readdir => readdirDefaults
  | .readlink => readlinkDefaults
  | .createReadStream => .of []
  | .createWriteStream path => writeStreamDefaults path

/-- What the constructor of a read stream takes for what is undefined. -/
def Operation.fallback : Operation → Object
  | .createReadStream =>
      .of [(.fd, .null), (.flags, .text "r"), (.mode, .number 0o666), (.autoClose, .boolean true)]
  | _ => .of []

/-- What reaches a call of the given options. A read stream looks for an encoding in the argument
itself. -/
def Operation.received : Operation → Argument → Object
  | .createReadStream, .text _ => .of []
  | _, argument => argument.given

/-- The start of a stream is a number, and not negative for a write stream. -/
def Operation.StartFits : Operation → Value → Prop
  | .createReadStream, start => start ≠ .undefined → start.isNumber = true
  | .createWriteStream _, start =>
      (start ≠ .undefined → start.isNumber = true) ∧ start.isNegative = false
  | _, _ => True

/-- The call accepts its options. -/
def Operation.Accepts (runtime : Runtime) (operation : Operation) (argument : Argument) : Prop :=
  argument.Fits runtime ∧ operation.StartFits (argument.given .start)

/-- What a call uses, when it accepts its options. -/
def Operation.uses (operation : Operation) (argument : Argument) : Object := fun property =>
  (operation.overrides property).orElse
    ((operation.received argument property).orElse (operation.fallback property))

/-- The check of the start that both streams make. -/
theorem start_checked {start : Value} : ¬ (start ≠ .undefined ∧ (!start.isNumber) = true) ↔
    (start ≠ .undefined → start.isNumber = true) := by
  simp

/-- A result that is no rejection comes from behind a check. -/
theorem ok_of_check {condition : Prop} [Decidable condition] {failure : Failure}
    {rest : Except Failure Object} {used : Object}
    (resolved : (if condition then .error failure else rest) = .ok used) :
    ¬condition ∧ rest = .ok used := by
  by_cases refused : condition
  · rw [if_pos refused] at resolved
    cases resolved
  · rw [if_neg refused] at resolved
    exact ⟨refused, resolved⟩

theorem settings_ok (operation : Operation) (accepted : operation.Accepts runtime argument) :
    ∃ used, operation.settings runtime argument = .ok used ∧
      ∀ property ∈ operation.configures, used property = operation.uses argument property := by
  obtain ⟨fits, starts⟩ := accepted
  have merged (defaults : Object) := (@getOptions_ok_iff runtime argument defaults _).mpr ⟨fits, rfl⟩
  cases operation with
  | readFile =>
      rw [Operation.settings, readFile, merged]
      refine ⟨_, rfl, ?_⟩
      simp only [Operation.configures, List.forall_mem_cons]
      exact ⟨rfl, rfl, List.forall_mem_nil _⟩
  | writeFile =>
      rw [Operation.settings, writeFile, merged]
      refine ⟨_, rfl, ?_⟩
      simp only [Operation.configures, List.forall_mem_cons]
      exact ⟨rfl, rfl, rfl, List.forall_mem_nil _⟩
  | readdir =>
      rw [Operation.settings, readdir, merged]
      refine ⟨_, rfl, ?_⟩
      simp only [Operation.configures, List.forall_mem_cons]
      exact ⟨rfl, List.forall_mem_nil _⟩
  | readlink =>
      rw [Operation.settings, readlink, merged]
      refine ⟨_, rfl, ?_⟩
      simp only [Operation.configures, List.forall_mem_cons]
      exact ⟨rfl, List.forall_mem_nil _⟩
  | createReadStream =>
      rw [Operation.settings, readStream, merged]
      show ∃ used, (if argument.given .start ≠ .undefined ∧ (!(argument.given .start).isNumber) = true
        then _ else _) = Except.ok used ∧ _
      rw [if_neg (start_checked.mpr starts)]
      refine ⟨_, rfl, ?_⟩
      simp only [Operation.configures, List.forall_mem_cons]
      cases argument with
      | missing => exact ⟨rfl, rfl, rfl, rfl, rfl, rfl, List.forall_mem_nil _⟩
      | text encoding => exact ⟨rfl, rfl, rfl, rfl, rfl, rfl, List.forall_mem_nil _⟩
      | object options =>
          exact ⟨(orElse_undefined _).symm, rfl, rfl, rfl, rfl, (orElse_undefined _).symm,
            List.forall_mem_nil _⟩
      | other type => exact absurd rfl (fits.1 type)
  | createWriteStream path =>
      rw [Operation.settings, writeStream, merged]
      show ∃ used, (if argument.given .start ≠ .undefined ∧ (!(argument.given .start).isNumber) = true
        then _ else if (argument.given .start).isNegative = true then _ else _) = Except.ok used ∧ _
      rw [if_neg (start_checked.mpr starts.1), starts.2, if_neg Bool.false_ne_true]
      refine ⟨_, rfl, ?_⟩
      simp only [Operation.configures, List.forall_mem_cons]
      have mark : argument.property .highWaterMark = argument.given .highWaterMark := by
        cases argument <;> rfl
      refine ⟨(orElse_undefined _).symm, rfl, rfl, rfl, rfl, ?_, List.forall_mem_nil _⟩
      exact mark.trans (orElse_undefined _).symm

/-- A call that resolves has accepted its options. -/
theorem accepts_of_settings (operation : Operation) {used : Object}
    (settled : operation.settings runtime argument = .ok used) :
    operation.Accepts runtime argument := by
  have merged {defaults : Object} {next : Object → Except Failure Object}
      (resolved : (getOptions runtime argument defaults >>= next) = .ok used) :
      argument.Fits runtime ∧ next (argument.given.spread defaults) = .ok used := by
    cases result : getOptions runtime argument defaults with
    | error failure =>
        rw [result] at resolved
        cases resolved
    | ok options =>
        obtain ⟨fits, same⟩ := getOptions_ok_iff.mp result
        rw [result] at resolved
        exact ⟨fits, same ▸ resolved⟩
  cases operation with
  | readFile => exact ⟨(merged settled).1, trivial⟩
  | writeFile => exact ⟨(merged settled).1, trivial⟩
  | readdir => exact ⟨(merged settled).1, trivial⟩
  | readlink => exact ⟨(merged settled).1, trivial⟩
  | createReadStream =>
      obtain ⟨fits, resolved⟩ := merged settled
      exact ⟨fits, start_checked.mp (@ok_of_check _ _ _ _ _ resolved).1⟩
  | createWriteStream path =>
      obtain ⟨fits, resolved⟩ := merged settled
      obtain ⟨number, rest⟩ := @ok_of_check _ _ _ _ _ resolved
      have positive := (@ok_of_check _ _ _ _ _ rest).1
      exact ⟨fits, start_checked.mp number, Bool.eq_false_of_not_eq_true positive⟩

variable {M : Type}

/-- The caller's settings are those that the call uses, as far as a value has a meaning for it, and
the other ones are used as without options. -/
def CallersWin (meaning : Property → Value → M) (runtime : Runtime) (operation : Operation)
    (argument : Argument) : Prop :=
  ∀ used plain, operation.settings runtime argument = .ok used →
    operation.settings runtime .missing = .ok plain → ∀ property ∈ operation.configures,
      meaning property (used property) =
        meaning property ((argument.given property).orElse (plain property))

/-- A setting for which the call has a default option means the same as that default, and a read
stream is given no string. -/
def AgreesWithDefaults (meaning : Property → Value → M) (operation : Operation)
    (argument : Argument) : Prop :=
  (∀ property ∈ operation.configures, argument.given property ≠ .undefined →
    operation.overrides property ≠ .undefined →
      meaning property (operation.overrides property) = meaning property (argument.given property)) ∧
  (∀ encoding, operation = .createReadStream → argument = .text encoding →
    meaning .encoding .undefined = meaning .encoding (.text encoding))

theorem missing_accepts (operation : Operation) : operation.Accepts runtime .missing := by
  refine ⟨⟨fun _ other => ?_, .inr (.inl rfl)⟩, ?_⟩
  · cases other
  · cases operation with
    | createReadStream => exact fun specified => absurd rfl specified
    | createWriteStream path => exact ⟨fun specified => absurd rfl specified, rfl⟩
    | _ => trivial

/-- Only a string for a read stream is not received. -/
theorem received_eq_given {operation : Operation}
    (other : ¬∃ encoding, operation = .createReadStream ∧ argument = .text encoding) :
    operation.received argument = argument.given := by
  cases operation with
  | createReadStream =>
      cases argument with
      | text encoding => exact absurd ⟨encoding, rfl, rfl⟩ other
      | _ => rfl
  | _ => rfl

/-- What a call uses is what the caller gave and otherwise what it uses without options, exactly if
no default option stands in its way. -/
theorem uses_iff (meaning : Property → Value → M) (operation : Operation) (argument : Argument) :
    (∀ property ∈ operation.configures, meaning property (operation.uses argument property) =
      meaning property ((argument.given property).orElse (operation.uses .missing property))) ↔
      AgreesWithDefaults meaning operation argument := by
  have plain (property : Property) : operation.uses .missing property =
      (operation.overrides property).orElse (operation.fallback property) := by
    have none := @received_eq_given .missing operation fun both => by
      obtain ⟨_, _, text⟩ := both
      cases text
    rw [Operation.uses, none]
    rfl
  by_cases string : ∃ encoding, operation = .createReadStream ∧ argument = .text encoding
  · obtain ⟨encoding, rfl, rfl⟩ := string
    apply Iff.intro
    · intro same
      refine ⟨fun property _ _ overridden => absurd rfl overridden, fun encoding' _ text => ?_⟩
      cases text
      exact same .encoding (by decide)
    · intro agrees property listed
      by_cases named : property = .encoding
      · rw [named]
        exact agrees.2 encoding rfl rfl
      · have absent : (Argument.text encoding).given property = .undefined := by
          simp [Argument.given, named]
        rw [absent, plain]
        rfl
  · have settled (property : Property) : meaning property (operation.uses argument property) =
        meaning property ((argument.given property).orElse (operation.uses .missing property)) ↔
        (argument.given property ≠ .undefined → operation.overrides property ≠ .undefined →
          meaning property (operation.overrides property) =
            meaning property (argument.given property)) := by
      rw [plain, Operation.uses, received_eq_given string]
      by_cases given : argument.given property = .undefined
      · simp [given]
      · rw [orElse_of_ne given, orElse_of_ne given]
        by_cases free : operation.overrides property = .undefined
        · simp [free]
        · simp [orElse_of_ne free, given, free]
    apply Iff.intro
    · intro same
      refine ⟨fun property listed => (settled property).mp (same property listed), ?_⟩
      intro encoding stream text
      exact absurd ⟨encoding, stream, text⟩ string
    · intro agrees property listed
      exact (settled property).mpr (agrees.1 property listed)

/-- The caller's settings win exactly if the options are refused, or if no setting that the call has
a default option for differs from that default and a read stream is given no string. -/
theorem callersWin_iff (meaning : Property → Value → M) (runtime : Runtime) (operation : Operation)
    (argument : Argument) :
    CallersWin meaning runtime operation argument ↔
      (operation.Accepts runtime argument → AgreesWithDefaults meaning operation argument) := by
  obtain ⟨plain, without, plainly⟩ := settings_ok operation (@missing_accepts runtime operation)
  apply Iff.intro
  · intro wins accepted
    obtain ⟨used, settled, looks⟩ := settings_ok operation accepted
    apply (uses_iff meaning operation argument).mp
    intro property listed
    rw [← looks property listed, ← plainly property listed]
    exact wins used plain settled without property listed
  · intro agrees used plain' settled without' property listed
    have accepted := accepts_of_settings operation settled
    obtain ⟨used', settled', looks⟩ := settings_ok operation accepted
    have same : used = used' := Except.ok.inj (settled.symm.trans settled')
    have same' : plain' = plain := Except.ok.inj (without'.symm.trans without)
    rw [same, same', looks property listed, plainly property listed]
    exact (uses_iff meaning operation argument).mpr (agrees accepted) property listed

/-- The caller's flag is replaced by that of a new file. -/
theorem flag_overridden :
    ¬∀ (runtime : Runtime) (operation : Operation) (argument : Argument),
      CallersWin (fun _ value => value) runtime operation argument := by
  intro wins
  have used := wins ⟨fun _ => true, fun _ => ""⟩ .writeFile (.object (.of [(.flag, .text "a")])) _ _
    rfl rfl .flag (by decide)
  exact absurd used (by decide)

section Typed

/-- An encoding of the other models as a value. -/
def Value.ofEncoding : Encoding → Value
  | .buffer => .text "buffer"
  | .named name _ => .text name

def Value.ofFlag : Flag → Value
  | .number value => .number value.toNat
  | .text flag => .text flag

def Object.ofOptions (options : Options) : Object :=
  .of [(.encoding, options.encoding.elim .undefined .ofEncoding),
    (.mode, options.mode.elim .undefined fun mode => .number mode.toNat),
    (.flag, options.flag.elim .undefined .ofFlag)]

/-- The runtime agrees with what the other models say about an encoding. -/
def Runtime.Knows (runtime : Runtime) : Option Encoding → Prop
  | some (.named name isEncoding) => name ≠ "buffer" ∧ name ≠ "" ∧
      runtime.isEncoding (.text name) = isEncoding ∧ runtime.display (.text name) = name
  | _ => True

theorem spread_ofOptions (first second : Options) :
    (Object.ofOptions first).spread (.ofOptions second) = .ofOptions (first.spread second) := by
  funext property
  cases property with
  | encoding =>
      rcases given : second.encoding with _ | encoding
      · simp [Object.spread, Object.ofOptions, Options.spread, given]
      · cases encoding <;> simp [Object.spread, Object.ofOptions, Options.spread, given,
          Value.ofEncoding, Value.orElse]
  | mode => cases given : second.mode <;>
      simp [Object.spread, Object.ofOptions, Options.spread, given, Value.orElse]
  | flag =>
      rcases given : second.flag with _ | flag
      · simp [Object.spread, Object.ofOptions, Options.spread, given]
      · cases flag <;> simp [Object.spread, Object.ofOptions, Options.spread, given, Value.ofFlag,
          Value.orElse]
  | _ => rfl

/-- Both models of the second half of `getOptions` agree. -/
theorem mergeOptions_ofOptions {options defaultOptions : Options}
    (knows : runtime.Knows options.encoding) :
    mergeOptions runtime (.ofOptions options) (.ofOptions defaultOptions) =
      (do Js.assertEncoding options.encoding
          return options.spread defaultOptions : Except Failure Options).map .ofOptions := by
  have passes (fits : EncodingFits runtime (Object.ofOptions options .encoding)) :
      mergeOptions runtime (.ofOptions options) (.ofOptions defaultOptions) =
        .ok (.ofOptions (options.spread defaultOptions)) :=
    mergeOptions_ok_iff.mpr ⟨fits, (spread_ofOptions _ _).symm⟩
  have value : Object.ofOptions options .encoding = options.encoding.elim .undefined .ofEncoding := rfl
  rcases given : options.encoding with _ | encoding
  · exact passes (.inr (.inl (by rw [value, given]; rfl)))
  · rw [given] at knows value
    cases encoding with
    | buffer => exact passes (.inl value)
    | named name isEncoding =>
        obtain ⟨other, nonempty, known, display⟩ := knows
        cases isEncoding with
        | true => exact passes (.inr (.inr (by rw [value]; exact known)))
        | false =>
            have text : Object.ofOptions options .encoding = .text name := value
            have unknown : (!(Value.text name).isFalsy && !runtime.isEncoding (.text name)) = true := by
              simp [Value.isFalsy, nonempty, known]
            have apart : Value.text name ≠ .text "buffer" := fun same => other (Value.text.inj same)
            rw [mergeOptions, text, if_pos apart, assertEncoding, if_pos unknown, display]
            rfl

/-- What the other models take for an argument. -/
def Argument.ofTyped : OptionsArgument → Argument
  | .missing => .missing
  | .text .buffer => .text "buffer"
  | .text (.named name _) => .text name
  | .object options => .object (.ofOptions options)
  | .other type => .other type

/-- The encoding that an argument of the other models has. -/
def encodingOf : OptionsArgument → Option Encoding
  | .text encoding => some encoding
  | .object options => options.encoding
  | _ => none

/-- Both models of `getOptions` agree. -/
theorem getOptions_ofTyped {argument : OptionsArgument} (knows : runtime.Knows (encodingOf argument))
    (defaultOptions : Options) :
    getOptions runtime (.ofTyped argument) (.ofOptions defaultOptions) =
      (Js.getOptions argument defaultOptions).map .ofOptions := by
  have updated (encoding : Encoding) :
      Function.update (Object.ofOptions defaultOptions) .encoding (.ofEncoding encoding) =
        Object.ofOptions { defaultOptions with encoding := some encoding } := by
    funext property
    cases property <;> rfl
  cases argument with
  | missing => rfl
  | text encoding =>
      have given : getOptions runtime (.ofTyped (.text encoding)) (.ofOptions defaultOptions) =
          mergeOptions runtime
            (Function.update (Object.ofOptions defaultOptions) .encoding (.ofEncoding encoding))
            (.ofOptions defaultOptions) := by
        cases encoding <;> rfl
      rw [given, updated]
      exact @mergeOptions_ofOptions runtime { defaultOptions with encoding := some encoding }
        defaultOptions knows
  | object options => exact mergeOptions_ofOptions knows
  | other type => rfl

end Typed

end NodeExt2fs.Settings
