import CacheSim.Program

/-!
# The command-line program

The program on the file system.
-/

namespace CacheSim

/-- The reason of an error of the file system. -/
def fileReason : IO.Error → String
  | .noFileOrDirectory _ _ _ => FileError.notFound.message
  | .inappropriateType _ code _ =>
    -- the number may be negated
    if code = 20 ∨ code + 20 = 0 then FileError.notFolder.message else FileError.isFolder.message
  | .permissionDenied _ _ _ => "Permission denied (os error 13)"
  | e => toString e

/-- An action, with the reason if it fails. -/
def attempt {α : Type} (action : IO α) : IO (Except String α) := do
  try
    return .ok (← action)
  catch e =>
    return .error (fileReason e)

/-- The digits of bytes in base 16. -/
def hexDigits (bytes : List UInt8) : String :=
  String.ofList (bytes.flatMap fun b =>
    [Nat.digitChar (b.toNat / 16), Nat.digitChar (b.toNat % 16)])

/-- The UUID of sixteen random bytes: version 4, in five groups of digits. -/
def uuid (bytes : List UInt8) : String :=
  let bytes := (bytes.modify 6 fun b => b % 16 + 0x40).modify 8 fun b => b % 64 + 0x80
  "-".intercalate <| [(0, 4), (4, 2), (6, 2), (8, 2), (10, 6)].map fun (start, length) =>
    hexDigits ((bytes.drop start).take length)

/-- The file system. -/
def fileSystem : World IO where
  fileExists path := do return (← attempt (IO.FS.realPath path)).toBool
  readFile path := attempt do return (← IO.FS.readBinFile path).toList
  openTrace path := attempt do
    let bytes := (← IO.FS.readBinFile path).toList
    return Trace.Content.ofFile path bytes
  writeFile path text := attempt (IO.FS.writeFile path text)
  runId := do return uuid (← IO.getRandomBytes 16).toList
  millis := do return UInt64.ofNat (← IO.monoMsNow)

end CacheSim

/-- Runs the program and exits with its exit code. -/
def main (arguments : List String) : IO UInt32 := do
  let outcome ← CacheSim.Program.run CacheSim.fileSystem arguments
  IO.print outcome.stdout
  IO.eprint outcome.stderr
  return outcome.exitCode
