import SyncookieXdp.Lib.CString
import SyncookieXdp.Lib.Steps
import SyncookieXdp.Model.Defines

/-!
# Pinning the maps of an object

`pin_maps_in_bpf_object` of `xdp_loader.c` and the two loops of libbpf it calls. The files
of the pin directory are those of one interface; pinning creates a file that refers to a
map and unpinning removes one.
-/

namespace SyncookieXdp
open Lib

def pathMax : Nat := 4096

/-- The name of an interface, as `--dev` accepts it. -/
structure IfName where
  name : CString
  short : name.length < ifNamesize

def pinBasedir : CString := ⟨CString.ascii "/sys/fs/bpf", by decide⟩

def mapName : CString := ⟨CString.ascii "xdp_stats_map", by decide⟩

/-- A map of the loaded object: its name and the kernel's map behind it. -/
structure BpfObjectMap (V : Type) where
  name : CString
  map : V

/-- The pin directory: the map each file refers to. -/
abbrev PinDir (V : Type) := CString → Option V

/-- The length of `pin_dir`, which is never cut for the name of an interface. -/
def pinDirLength (subdir : IfName) : Nat := pinBasedir.length + 1 + subdir.name.length

section Libbpf

variable {V : Type} (dirLength : Nat)

/-- The path of a map's file, unless `len >= PATH_MAX`. -/
def pinPath (m : BpfObjectMap V) : Except Int CString :=
  if dirLength + 1 + m.name.length ≥ pathMax then .error errNameTooLong else .ok m.name

/-- `bpf_obj_pin` fails exactly if the file is there. -/
def bpfMapPin (d : PinDir V) (m : BpfObjectMap V) (path : CString) : Except Int (PinDir V) :=
  if (d path).isSome then .error errExist else .ok (Function.update d path (some m.map))

/-- `unlink` fails exactly if the file is not there. -/
def bpfMapUnpin (d : PinDir V) (path : CString) : Except Int (PinDir V) :=
  if (d path).isNone then .error errNoEntry else .ok (Function.update d path none)

def pinOne (d : PinDir V) (m : BpfObjectMap V) : Except Int (PinDir V) := do
  let buf ← pinPath dirLength m
  bpfMapPin d m buf

def unpinOne (d : PinDir V) (m : BpfObjectMap V) : Except Int (PinDir V) := do
  let buf ← pinPath dirLength m
  bpfMapUnpin d buf

/-- `bpf_object__pin_maps`. On an error the loop goes back through the maps before the failed
one and unpins them, whatever comes of it. -/
def bpfObjectPinMaps (maps : List (BpfObjectMap V)) (d : PinDir V) : PinDir V × Option Int :=
  orUndo (pinOne dirLength)
    (fun d m =>
      match unpinOne dirLength d m with
      | .ok d' => d'
      | .error _ => d)
    [] d maps

/-- `bpf_object__unpin_maps` returns at the first error. -/
def bpfObjectUnpinMaps (maps : List (BpfObjectMap V)) (d : PinDir V) : PinDir V × Option Int :=
  untilError (unpinOne dirLength) d maps

end Libbpf

def pinMapsInBpfObject {V : Type} (maps : List (BpfObjectMap V)) (subdir : IfName) (d : PinDir V) :
    PinDir V × Nat :=
  let pinDir := pinDirLength subdir
  -- whether there is anything to clean up is decided by one file
  let (d, err) := if (d mapName).isSome then bpfObjectUnpinMaps pinDir maps d else (d, none)
  if err.isSome then (d, exitFailBpf)
  else
    let (d, err) := bpfObjectPinMaps pinDir maps d
    if err.isSome then (d, exitFailBpf) else (d, 0)

end SyncookieXdp
