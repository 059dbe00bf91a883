import NodeExt2fs.Structures.InsertionMap
import NodeExt2fs.Structures.Tenancy

/-!
This file numbers the objects that the C code may reach, and the calls that use hooks.
-/

namespace NodeExt2fs.Js
open Structures

/-- The variables of `src/pre.js`. -/
structure SharedObjects (Object : Type) where
  objects : InsertionMap Nat Object
  nextId : Nat
  idPool : List Nat

namespace SharedObjects

variable {Object : Type}

def empty : SharedObjects Object where
  objects := .empty
  nextId := 0
  idPool := []

def reserveId (state : SharedObjects Object) : Nat × SharedObjects Object :=
  let state :=
    if state.idPool.length = 0 then
      { state with nextId := state.nextId + 1, idPool := state.idPool ++ [state.nextId + 1] }
    else state
  (state.idPool.headD 0, { state with idPool := state.idPool.tail })

def releaseId (state : SharedObjects Object) (id : Nat) : SharedObjects Object :=
  { state with idPool := state.idPool ++ [id] }

def setObject (state : SharedObjects Object) (obj : Object) : Nat × SharedObjects Object :=
  let (id, state) := state.reserveId
  (id, { state with objects := state.objects.set id obj })

def getObject (state : SharedObjects Object) (id : Nat) : Option Object := state.objects.get id

def deleteObject (state : SharedObjects Object) (id : Nat) : SharedObjects Object :=
  releaseId { state with objects := state.objects.delete id } id

/-- The numbers from `nextId + 1` on have never been handed out. -/
def ids (state : SharedObjects Object) : IdPool where
  next := state.nextId + 1
  released := state.idPool

/-- A number that is pushed into the empty pool is the one that comes out. -/
theorem reserveId_ids (state : SharedObjects Object) :
    (state.reserveId.1, state.reserveId.2.ids) = state.ids.getId := by
  cases waiting : state.idPool with
  | nil => simp [reserveId, ids, IdPool.getId, waiting]
  | cons id rest => simp [reserveId, ids, IdPool.getId, waiting]

end SharedObjects

/-- Each object holds the number under which it was stored. -/
def objectIssuer (Object : Type) : Issuer (SharedObjects Object) Object where
  acquire := SharedObjects.setObject
  release := SharedObjects.deleteObject

/-- `getIdManager`, whose variables make up a pool. -/
def idManager (Holder : Type) : Issuer IdPool Holder where
  acquire pool _ := pool.getId
  release := IdPool.releaseId

end NodeExt2fs.Js
