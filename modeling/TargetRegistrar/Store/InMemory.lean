import TargetRegistrar.Resource.Basic
import TargetRegistrar.Table

/-!
# A store in memory

Resources by namespace and name, with a version counter that every write moves on. A write is
accepted when the copy that it is based on has the stored version and no conflict has been injected.
A resource leaves the store when it is marked for deletion and no finalizer is left.
-/

namespace TargetRegistrar.Store

/-- Where a resource is stored: its namespace and name. -/
abbrev Location : Type := String × String

/-- Where a resource is to be stored; what is absent counts as empty. -/
def location (r : Resource) : Location :=
  (r.metadata.ns.getD "", r.metadata.name.getD "")

/-- When a resource in memory is marked for deletion, it is marked with this instant. -/
def deletionInstant : Timestamp :=
  ⟨⟨2025, 1, 1, by decide⟩, 0, 0, 0, 0, by decide⟩

/-- The content of a store in memory. -/
structure InMemory where
  objects : Table Location Resource := {}
  lastVersion : Nat := 0
  /-- How many status writes are still to be refused. -/
  statusConflicts : Nat := 0
  /-- How many finalizer writes are still to be refused. -/
  finalizerConflicts : Nat := 0
  statusWrites : Nat := 0
  finalizerWrites : Nat := 0
  deriving DecidableEq, Repr

namespace InMemory

/-- The stored resource with a name in a namespace. -/
def current (s : InMemory) (ns name : String) : Option Resource :=
  s.objects.get? (ns, name)

/-- The version that the next write gives. -/
def nextVersion (s : InMemory) : String :=
  toString (s.lastVersion + 1)

/-- A resource with the version that the next write gives. -/
def stamped (s : InMemory) (r : Resource) : Resource :=
  { r with metadata := { r.metadata with resourceVersion := some s.nextVersion } }

/-- Writes a resource under a new version to where it belongs. -/
def write (s : InMemory) (at' : Location) (r : Resource) : InMemory :=
  { s with objects := s.objects.insert at' (s.stamped r), lastVersion := s.lastVersion + 1 }

/-- Stores a resource, whatever was there; returns the stored copy. -/
def insert (s : InMemory) (r : Resource) : Resource × InMemory :=
  (s.stamped r, s.write (location r) r)

/-- Edits a specification as a user does: the generation goes up. -/
def updateSpec (s : InMemory) (ns name : String) (edit : Spec → Spec) : InMemory :=
  match s.current ns name with
  | none => s
  | some r =>
    s.write (ns, name)
      { r with
        spec := edit r.spec
        metadata := { r.metadata with generation := some (r.metadata.generation.getD 0 + 1) } }

/-- Marks a resource for deletion; without a finalizer it is gone at once. -/
def markDeleted (s : InMemory) (ns name : String) : InMemory :=
  match s.current ns name with
  | none => s
  | some r =>
    if r.finalizers.isEmpty then { s with objects := s.objects.erase (ns, name) }
    else
      s.write (ns, name)
        { r with metadata := { r.metadata with deletionTimestamp := some deletionInstant } }

/-- Refuses the next `count` status writes. -/
def injectStatusConflicts (s : InMemory) (count : Nat) : InMemory :=
  { s with statusConflicts := count }

/-- Refuses the next `count` finalizer writes. -/
def injectFinalizerConflicts (s : InMemory) (count : Nat) : InMemory :=
  { s with finalizerConflicts := count }

/-- The stored resource that a write is based on, if the write may go ahead. -/
def basis (s : InMemory) (copy : Resource) (refused : Bool) : Except Error Resource :=
  match s.objects.get? (location copy) with
  | none => .error (.notFound copy.key)
  | some stored =>
    if refused ∨ stored.metadata.resourceVersion ≠ copy.metadata.resourceVersion then
      .error (.conflict copy.key)
    else .ok stored

/-- Replaces the finalizers of the stored resource; the last one of a resource that is marked for
deletion takes it out of the store. -/
def replaceFinalizers (s : InMemory) (copy : Resource) (finalizers : List String) :
    Except Error Resource × InMemory :=
  let refused := 0 < s.finalizerConflicts
  let s := { s with finalizerConflicts := s.finalizerConflicts - 1 }
  match s.basis copy refused with
  | .error e => (.error e, s)
  | .ok stored =>
    let edited := { stored with metadata := { stored.metadata with finalizers := some finalizers } }
    let written := { s.write (location copy) edited with finalizerWrites := s.finalizerWrites + 1 }
    (.ok (s.stamped edited),
      if edited.isBeingDeleted ∧ finalizers.isEmpty then
        { written with objects := s.objects.erase (location copy) }
      else written)

/-- Replaces the status of the stored resource. -/
def replaceStatus (s : InMemory) (copy : Resource) (status : Status) :
    Except Error Resource × InMemory :=
  let refused := 0 < s.statusConflicts
  let s := { s with statusConflicts := s.statusConflicts - 1 }
  match s.basis copy refused with
  | .error e => (.error e, s)
  | .ok stored =>
    let edited := { stored with status := some status }
    (.ok (s.stamped edited),
      { s.write (location copy) edited with statusWrites := s.statusWrites + 1 })

/-- Serves a request. -/
def serve (s : InMemory) : (request : Request) → request.Outcome × InMemory
  | .get ns name => (.ok (s.current ns name), s)
  | .replaceFinalizers copy finalizers => s.replaceFinalizers copy finalizers
  | .replaceStatus copy status => s.replaceStatus copy status

end InMemory

end TargetRegistrar.Store
