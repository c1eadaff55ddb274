import PageInjection.Json.Decode

/-!
# Limits of a script run

Zero switches a limit off, except for the depth of calls, where it stands for
the default depth.
-/

namespace PageInjection

/-- What one script run may use. -/
structure Limits where
  operations : UInt64 := 1000000
  callLevels : UInt64 := 64
  stringBytes : UInt64 := 1048576
  arrayItems : UInt64 := 10000
  mapMembers : UInt64 := 10000
  outputBytes : UInt64 := 1048576
  milliseconds : UInt64 := 2000
deriving DecidableEq, Repr

namespace Limits

def defaultCallLevels : UInt64 := 64

def greatestCallLevels : UInt64 := 1024

/-- No limits beyond the default depth of calls. -/
def unlimited : Limits := ⟨0, 0, 0, 0, 0, 0, 0⟩

def depth (limits : Limits) : Nat :=
  if limits.callLevels = 0 then defaultCallLevels.toNat
  else min limits.callLevels.toNat greatestCallLevels.toNat

def toJson (limits : Limits) : Json :=
  .object [
    ("max_array_size", .integer limits.arrayItems.toNat),
    ("max_call_levels", .integer limits.callLevels.toNat),
    ("max_map_size", .integer limits.mapMembers.toNat),
    ("max_operations", .integer limits.operations.toNat),
    ("max_output_bytes", .integer limits.outputBytes.toNat),
    ("max_string_size", .integer limits.stringBytes.toNat),
    ("time_limit_ms", .integer limits.milliseconds.toNat)]

/-- What is read for each field that is missing. -/
def missing : Limits where
  operations := 1000000
  callLevels := defaultCallLevels
  stringBytes := 1024 * 1024
  arrayItems := 10000
  mapMembers := 10000
  outputBytes := 1024 * 1024
  milliseconds := 2000

/-- What is read for nothing is the record of the defaults. -/
theorem missing_eq_default : missing = {} := rfl

/-- How limits are read. -/
def shape : Json.RecordShape Limits Limits where
  name := "SandboxConfig"
  fields := ["max_operations", "max_call_levels", "max_string_size", "max_array_size",
    "max_map_size", "max_output_bytes", "time_limit_ms"]
  draft := missing
  set limits name value :=
    match name with
    | "max_operations" => do return { limits with operations := ← Json.toUInt64 "u64" value }
    | "max_call_levels" => do return { limits with callLevels := ← Json.toUInt64 "usize" value }
    | "max_string_size" => do return { limits with stringBytes := ← Json.toUInt64 "usize" value }
    | "max_array_size" => do return { limits with arrayItems := ← Json.toUInt64 "usize" value }
    | "max_map_size" => do return { limits with mapMembers := ← Json.toUInt64 "usize" value }
    | "max_output_bytes" => do return { limits with outputBytes := ← Json.toUInt64 "usize" value }
    | "time_limit_ms" => do return { limits with milliseconds := ← Json.toUInt64 "u64" value }
    | _ => .ok limits
  finish := .ok
  hasDefaults := true

def ofJson : Json.Decoder Limits := shape.decode

end Limits

end PageInjection
