import NodeExt2fs.Construction.Js.Binding

/-!
This file reads the options and the flags of the calls in `lib/fs.js`.
-/

namespace NodeExt2fs.Js
open Glue

/-- What an async function rejects with. A function that has not settled is told apart. -/
inductive Failure where
  | errno (exception : ErrnoException)
  | error (message : String)
  | unsettled
  deriving DecidableEq

abbrev O_SYNC : BitVec 32 := 1052672#32

/-- A flag is a number or a string. -/
inductive Flag where
  | number (value : BitVec 32)
  | text (flag : String)
  deriving DecidableEq

def stringToFlags : Flag → Except Failure (BitVec 32)
  | .number value => .ok value
  | .text "r" => .ok 0
  | .text "rs" | .text "sr" => .ok O_SYNC
  | .text "r+" => .ok O_RDWR
  | .text "rs+" | .text "sr+" => .ok (O_RDWR ||| O_SYNC)
  | .text "w" => .ok (O_TRUNC ||| O_CREAT ||| O_WRONLY)
  | .text "wx" | .text "xw" => .ok (O_TRUNC ||| O_CREAT ||| O_WRONLY ||| O_EXCL)
  | .text "w+" => .ok (O_TRUNC ||| O_CREAT ||| O_RDWR)
  | .text "wx+" | .text "xw+" => .ok (O_TRUNC ||| O_CREAT ||| O_RDWR ||| O_EXCL)
  | .text "a" => .ok (O_APPEND ||| O_CREAT ||| O_WRONLY)
  | .text "ax" | .text "xa" => .ok (O_APPEND ||| O_CREAT ||| O_WRONLY ||| O_EXCL)
  | .text "a+" => .ok (O_APPEND ||| O_CREAT ||| O_RDWR)
  | .text "ax+" | .text "xa+" => .ok (O_APPEND ||| O_CREAT ||| O_RDWR ||| O_EXCL)
  | .text flag => .error (.error ("Unknown file open flag: " ++ flag))

/-- `/a/.test(flag)`. The digits of a number have no letter. -/
def Flag.hasA : Flag → Bool
  | .number _ => false
  | .text flag => flag.toList.contains 'a'

/-- An encoding: `buffer`, or a name with what `Buffer.isEncoding` says about it. -/
inductive Encoding where
  | buffer
  | named (name : String) (isEncoding : Bool)
  deriving DecidableEq

abbrev utf8 : Encoding := .named "utf8" true

/-- The properties of an options object that the calls look at. -/
structure Options where
  encoding : Option Encoding
  mode : Option (BitVec 32)
  flag : Option Flag
  deriving DecidableEq

/-- `{...first, ...second}`. -/
def Options.spread (first second : Options) : Options where
  encoding := second.encoding <|> first.encoding
  mode := second.mode <|> first.mode
  flag := second.flag <|> first.flag

/-- What a caller passes for options. -/
inductive OptionsArgument where
  | missing
  | text (encoding : Encoding)
  | object (options : Options)
  | other (type : String)

def assertEncoding : Option Encoding → Except Failure Unit
  | some (.named name false) => .error (.error ("Unknown encoding: " ++ name))
  | _ => .ok ()

/-- The default options come last and override those of the caller. -/
def getOptions (options : OptionsArgument) (defaultOptions : Options) : Except Failure Options :=
  match options with
  | .missing => .ok defaultOptions
  | .text encoding => do
      let options := { defaultOptions with encoding := some encoding }
      assertEncoding options.encoding
      return options.spread defaultOptions
  | .object options => do
      assertEncoding options.encoding
      return options.spread defaultOptions
  | .other type =>
      .error (.error ("\"options\" must be a string or an object, got " ++ type ++ " instead."))

end NodeExt2fs.Js
