import NodeExt2fs.Construction.Js.Options
import Mathlib.Data.Rat.Defs
import Mathlib.Logic.Function.Basic

/-!
This file follows the options of a caller to the places where their values are used.
-/

namespace NodeExt2fs.Settings
open Js

/-- The values of options. An object stands for whatever is none of the others. -/
inductive Value where
  | undefined
  | null
  | boolean (value : Bool)
  | number (value : Rat)
  | infinity (negative : Bool)
  | nan
  | text (value : String)
  | object (identity : Nat)
  deriving DecidableEq

/-- `!value`. -/
def Value.isFalsy : Value → Bool
  | .undefined | .null | .nan => true
  | .boolean value => !value
  | .number value => value == 0
  | .text value => value == ""
  | .infinity _ | .object _ => false

/-- `typeof value === 'number'`. -/
def Value.isNumber : Value → Bool
  | .number _ | .infinity _ | .nan => true
  | _ => false

/-- `value < 0` of a number. -/
def Value.isNegative : Value → Bool
  | .number value => decide (value < 0)
  | .infinity negative => negative
  | _ => false

/-- `value !== undefined ? value : default`. -/
def Value.orElse (value default : Value) : Value := if value ≠ .undefined then value else default

/-- `value || default`. -/
def Value.orFalsy (value default : Value) : Value := if value.isFalsy then default else value

/-- The properties that the calls look at. -/
inductive Property where
  | encoding | flag | flags | mode | fd | autoClose | highWaterMark | start | path | bytesWritten
  deriving DecidableEq

/-- A property that an object does not have is undefined. -/
abbrev Object := Property → Value

def Object.of (properties : List (Property × Value)) : Object :=
  fun property => (properties.lookup property).getD .undefined

/-- `{...first, ...second}`, where no property that `second` has is undefined. -/
def Object.spread (first second : Object) : Object :=
  fun property => (second property).orElse (first property)

/-- What a caller passes for options. -/
inductive Argument where
  | missing
  | text (encoding : String)
  | object (options : Object)
  | other (type : String)

/-- A property of the argument itself. A string has none of these. -/
def Argument.property (argument : Argument) (property : Property) : Value :=
  match argument with
  | .object options => options property
  | _ => .undefined

/-- What the caller specifies. A string is an encoding. -/
def Argument.given : Argument → Object
  | .text encoding => .of [(.encoding, .text encoding)]
  | .object options => options
  | .missing | .other _ => .of []

/-- `Buffer.isEncoding` and the conversion to a string. -/
structure Runtime where
  isEncoding : Value → Bool
  display : Value → String

section

variable (runtime : Runtime)

def assertEncoding (encoding : Value) : Except Failure Unit :=
  if !encoding.isFalsy && !runtime.isEncoding encoding then
    .error (.error ("Unknown encoding: " ++ runtime.display encoding))
  else .ok ()

/-- The second half of `getOptions`. -/
def mergeOptions (options defaultOptions : Object) : Except Failure Object := do
  if options .encoding ≠ .text "buffer" then
    assertEncoding runtime (options .encoding)
  return options.spread defaultOptions

def getOptions (options : Argument) (defaultOptions : Object) : Except Failure Object :=
  match options with
  | .missing => .ok defaultOptions
  | .text encoding =>
      mergeOptions runtime (Function.update defaultOptions .encoding (.text encoding)) defaultOptions
  | .object options => mergeOptions runtime options defaultOptions
  | .other type =>
      .error (.error ("\"options\" must be a string or an object, got " ++ type ++ " instead."))

abbrev readFileDefaults : Object := .of [(.flag, .text "r"), (.encoding, .text "utf8")]

/-- The flag goes to `stringToFlags`, and the encoding to `toString`. -/
def readFile (options : Argument) : Except Failure Object := do
  let options ← getOptions runtime options readFileDefaults
  return .of [(.flag, (options .flag).orFalsy (.text "r")), (.encoding, options .encoding)]

abbrev writeFileDefaults : Object :=
  .of [(.encoding, .text "utf8"), (.mode, .number 0o666), (.flag, .text "w")]

/-- The flag and the mode go to `open`, and the encoding to `Buffer.from`. -/
def writeFile (options : Argument) : Except Failure Object := do
  let options ← getOptions runtime options writeFileDefaults
  return .of [(.flag, options .flag), (.mode, options .mode),
    (.encoding, (options .encoding).orFalsy (.text "utf8"))]

abbrev readdirDefaults : Object := .of [(.encoding, .text "utf8")]

/-- The encoding goes to `toString`. `readlink` does the same with its options. -/
def readdir (options : Argument) : Except Failure Object := do
  let options ← getOptions runtime options readdirDefaults
  return .of [(.encoding, options .encoding)]

abbrev readlinkDefaults : Object := .of [(.encoding, .text "utf8")]

def readlink (options : Argument) : Except Failure Object := do
  let options ← getOptions runtime options readlinkDefaults
  return .of [(.encoding, options .encoding)]

/-- `super(options)` takes the encoding and the water mark from the argument, and the pools take
the latter from there. The other properties are those of the stream. -/
def readStream (argument : Argument) : Except Failure Object := do
  let options ← getOptions runtime argument (.of [(.highWaterMark, .number (64 * 1024))])
  if options .start ≠ .undefined ∧ !(options .start).isNumber then
    throw (.error "\"start\" option must be a Number")
  return .of [(.fd, (options .fd).orElse .null), (.flags, (options .flags).orElse (.text "r")),
    (.mode, (options .mode).orElse (.number 0o666)),
    (.autoClose, (options .autoClose).orElse (.boolean true)), (.start, options .start),
    (.encoding, argument.property .encoding), (.highWaterMark, argument.property .highWaterMark)]

abbrev writeStreamDefaults (path : Value) : Object :=
  .of [(.fd, .null), (.flags, .text "w"), (.mode, .number 0o666), (.autoClose, .boolean true),
    (.path, path), (.bytesWritten, .number 0)]

/-- `super(options)` takes the water mark from the argument. The other properties are assigned to
the stream, which hands the encoding to `setDefaultEncoding`. -/
def writeStream (path : Value) (argument : Argument) : Except Failure Object := do
  let options ← getOptions runtime argument (writeStreamDefaults path)
  if options .start ≠ .undefined ∧ !(options .start).isNumber then
    throw (.error "\"start\" option must be a Number")
  if (options .start).isNegative then
    throw (.error "\"start\" must be >= zero")
  return Function.update options .highWaterMark (argument.property .highWaterMark)

/-- The calls with options. The path is an argument of `createWriteStream`. -/
inductive Operation where
  | readFile
  | writeFile
  | readdir
  | readlink
  | createReadStream
  | createWriteStream (path : Value)

/-- The values that a call uses, unless it rejects the options. -/
def Operation.settings : Operation → Argument → Except Failure Object
  | .readFile => Settings.readFile runtime
  | .writeFile => Settings.writeFile runtime
  | .readdir => Settings.readdir runtime
  | .readlink => Settings.readlink runtime
  | .createReadStream => readStream runtime
  | .createWriteStream path => writeStream runtime path

end

/-- The settings that a call has. -/
def Operation.configures : Operation → List Property
  | .readFile => [.encoding, .flag]
  | .writeFile => [.encoding, .mode, .flag]
  | .readdir | .readlink => [.encoding]
  | .createReadStream | .createWriteStream _ =>
      [.encoding, .flags, .mode, .fd, .autoClose, .highWaterMark]

end NodeExt2fs.Settings
