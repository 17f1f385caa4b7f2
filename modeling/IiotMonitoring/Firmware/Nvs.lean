import IiotMonitoring.Lib.Program
import Mathlib.Logic.Function.Basic

/-!
# Non-volatile storage

The NVS calls of `gateway_platform.c` as operations of a program, and the store they act on: a map
from keys to blobs. A blob write or an erase takes effect at once and in full or, where the device may
fail, not at all. A commit changes nothing, whatever it reports. Reads return what is stored.
-/

namespace IiotMonitoring

/-- The `esp_err_t` values the storage code distinguishes. -/
inductive EspErr where
  | ok | nvsNotFound | nvsInvalidLength | fail
  deriving DecidableEq, Repr

inductive LogLevel where
  | warning | error
  deriving DecidableEq, Repr

inductive NvsOp where
  | getBlob (key : String) (size : Nat)
  | setBlob (key : String) (value : List UInt8)
  | eraseKey (key : String)
  | commit
  | log (level : LogLevel) (text : String)
  deriving DecidableEq, Repr

abbrev NvsAnswer : NvsOp → Type
  | .getBlob _ _ => Except EspErr (List UInt8)
  | .setBlob _ _ => EspErr
  | .eraseKey _ => EspErr
  | .commit => EspErr
  | .log _ _ => Unit

abbrev NvsProgram := Program NvsOp NvsAnswer

def nvsGetBlob (key : String) (size : Nat) : NvsProgram (Except EspErr (List UInt8)) :=
  Program.perform (NvsOp.getBlob key size)

def nvsSetBlob (key : String) (value : List UInt8) : NvsProgram EspErr :=
  Program.perform (NvsOp.setBlob key value)

def nvsEraseKey (key : String) : NvsProgram EspErr := Program.perform (NvsOp.eraseKey key)

def nvsCommit : NvsProgram EspErr := Program.perform NvsOp.commit

def espLog (level : LogLevel) (text : String) : NvsProgram Unit := Program.perform (NvsOp.log level text)

/-! ### The store -/

/-- What the flash holds. -/
abbrev Nvs := String → Option (List UInt8)

def Nvs.set (nvs : Nvs) (key : String) (value : List UInt8) : Nvs :=
  Function.update nvs key (some value)

def Nvs.erase (nvs : Nvs) (key : String) : Nvs := Function.update nvs key none

/-- Read a blob into a buffer of `size` bytes; a shorter blob is returned with its own length. -/
def Nvs.get (nvs : Nvs) (key : String) (size : Nat) : Except EspErr (List UInt8) :=
  match nvs key with
  | none => .error .nvsNotFound
  | some value => if value.length ≤ size then .ok value else .error .nvsInvalidLength

def Nvs.eraseAnswer (nvs : Nvs) (key : String) : EspErr :=
  if nvs key = none then .nvsNotFound else .ok

@[simp]
theorem Nvs.set_self (nvs : Nvs) (key : String) (value : List UInt8) :
    nvs.set key value key = some value :=
  Function.update_self ..

theorem Nvs.set_of_ne (nvs : Nvs) {key other : String} (value : List UInt8) (h : other ≠ key) :
    nvs.set key value other = nvs other :=
  Function.update_of_ne h ..

@[simp]
theorem Nvs.erase_self (nvs : Nvs) (key : String) : nvs.erase key key = none :=
  Function.update_self ..

theorem Nvs.erase_of_ne (nvs : Nvs) {key other : String} (h : other ≠ key) :
    nvs.erase key other = nvs other :=
  Function.update_of_ne h ..

theorem Nvs.get_of_some {nvs : Nvs} {key : String} {value : List UInt8} {size : Nat}
    (h : nvs key = some value) (hsize : value.length = size) : nvs.get key size = .ok value := by
  simp [Nvs.get, h, hsize]

theorem Nvs.get_of_none {nvs : Nvs} {key : String} (h : nvs key = none) (size : Nat) :
    nvs.get key size = .error .nvsNotFound := by
  simp [Nvs.get, h]

/-- What each call may answer. With `mayFail` a write, an erase or a commit may report a failure;
a failed write or erase leaves the store as it was. -/
def nvsAnswers (mayFail : Prop) : (op : NvsOp) → Nvs → NvsAnswer op → Nvs → Prop
  | .getBlob key size, nvs, answer, nvs' => answer = nvs.get key size ∧ nvs' = nvs
  | .setBlob key value, nvs, answer, nvs' =>
      (answer = .ok ∧ nvs' = nvs.set key value) ∨ (mayFail ∧ answer = .fail ∧ nvs' = nvs)
  | .eraseKey key, nvs, answer, nvs' =>
      (answer = nvs.eraseAnswer key ∧ nvs' = nvs.erase key) ∨
        (mayFail ∧ answer = .fail ∧ nvs' = nvs)
  | .commit, nvs, answer, nvs' => (answer = .ok ∨ (mayFail ∧ answer = .fail)) ∧ nvs' = nvs
  | .log _ _, nvs, _, nvs' => nvs' = nvs

/-- The device that never fails. -/
def nvsDevice : (op : NvsOp) → Nvs → NvsAnswer op × Nvs
  | .getBlob key size, nvs => (nvs.get key size, nvs)
  | .setBlob key value, nvs => (.ok, nvs.set key value)
  | .eraseKey key, nvs => (nvs.eraseAnswer key, nvs.erase key)
  | .commit, nvs => (.ok, nvs)
  | .log _ _, nvs => ((), nvs)

theorem nvsAnswers_nvsDevice (mayFail : Prop) (op : NvsOp) (nvs : Nvs) :
    nvsAnswers mayFail op nvs (nvsDevice op nvs).1 (nvsDevice op nvs).2 := by
  cases op <;> simp [nvsAnswers, nvsDevice]

end IiotMonitoring
