import NodeExt2fs.Construction.Library.Reference

/-!
This file states how the closes of an unmount end, and records the calls.
-/

namespace NodeExt2fs.Library
open Programs Glue

/-- After the calls so far, each close of a file ends with the code that is given for it, and so does
the close of the filesystem. -/
def closing (codes : List Call → Ptr → Errcode) (last : List Call → Errcode) :
    Contract Call Answer (List Call) where
  permits _ _ := True
  allows log call answer log' := log' = log ++ [call] ∧
    match call, answer with
    | .fileClose file, code => code = codes log file
    | .close, code => code = last log
    | _, _ => True

/-- None of the closes fails, when the files are closed one after the other and then the filesystem. -/
def Closable (codes : List Call → Ptr → Errcode) (last : List Call → Errcode) :
    List Call → List Ptr → Prop
  | log, [] => last log = 0
  | log, file :: rest => codes log file = 0 ∧ Closable codes last (log ++ [.fileClose file]) rest

/-- A library that ends its closes as it is told. -/
def closingLibrary (codes : List Call → Ptr → Errcode) (last : List Call → Errcode) :
    Handler Call Answer (List Call)
  | .fileClose file, log => (codes log file, log ++ [.fileClose file])
  | .close, log => (last log, log ++ [.close])
  | call, log => ((reference call (Volume.holding [])).1, log ++ [call])

end NodeExt2fs.Library
