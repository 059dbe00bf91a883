import NodeExt2fs.Construction.Js.Promises
import NodeExt2fs.Structures.IdPool

/-!
This file closes all files of a filesystem and unmounts it.
-/

namespace NodeExt2fs.Glue

def nodeExt2fsUmount : Routine Int := do
  let ret ← ext2fsClose
  return -ret

end NodeExt2fs.Glue

namespace NodeExt2fs.Js
open Programs Structures Glue

variable {Object A : Type}

/-- The objects of `src/pre.js` by their numbers. -/
structure ObjectTable (Object : Type) where
  objects : InsertionMap Nat Object
  ids : IdPool

def ObjectTable.deleteObject (table : ObjectTable Object) (id : Nat) : ObjectTable Object where
  objects := table.objects.delete id
  ids := table.ids.releaseId id

/-- The variables of one filesystem, and those of the module. -/
structure ModuleLocals (Object : Type) where
  openFiles : OpenFiles
  table : ObjectTable Object

/-- An async function that may touch the module too. -/
abbrev ModulePromise (Object A : Type) := Async Call Answer (ModuleLocals Object) Failure A

/-- A function of `lib/fs.js` leaves the module alone. -/
def onOpenFiles (promise : Promise A) : ModulePromise Object A :=
  ExceptT.mk fun locals => do
    let (result, openFiles) ← promise.start locals.openFiles
    return (result, { locals with openFiles := openFiles })

/-- The loop of `closeAllFileDescriptors`. The iterator of the map does not come to an entry that has
been deleted, and no entry is added while no other call is in progress. -/
def closeKeys : List Ptr → Promise Unit
  | [] => return
  | fd :: rest => do
      if (← get).has fd then
        closeFd fd
        closeKeys rest
      else
        closeKeys rest

def closeAllFileDescriptors : Promise Unit := do
  closeKeys (← get).keys

/-- The number under which `mount` has put the disk into the table. -/
def umount (diskId : Nat) : ModulePromise Object Unit := do
  onOpenFiles closeAllFileDescriptors
  let _ ← onOpenFiles (binding "node_ext2fs_umount" [] nodeExt2fsUmount)
  modify fun locals => { locals with table := locals.table.deleteObject diskId }

/-- `mount` is given, and returns the number of the disk. -/
def withMountedDisk (mount : ModulePromise Object Nat) (fn : Nat → ModulePromise Object A) :
    ModulePromise Object A := do
  let diskId ← mount
  awaitFinally (fn diskId) (umount diskId)

end NodeExt2fs.Js
