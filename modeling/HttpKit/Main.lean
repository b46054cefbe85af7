import HttpKit.Program

/-!
# Standard input and output as the network

The program's outer layer. It serves one peer, whose connection is standard input and output.
-/

namespace HttpKit.Main

/-- The variables of the environment that concern the server. -/
def environment : IO Settings.Environment := do
  let values ← Settings.fullNames.mapM fun name => return (name, ← IO.getEnv name)
  return values.filterMap fun (name, value) => value.map (name, ·)

/-- Everything that is there to be read. -/
partial def readAll (input : IO.FS.Stream) (found : ByteArray) : IO ByteArray := do
  let part ← input.read 65536
  if part.isEmpty then return found else readAll input (found ++ part)

/-- A port on a network without ports. -/
def network : Network := ⟨fun _ => none, 0⟩

/-- The peer that sends these bytes. -/
def peer (bytes : ByteArray) : Peer :=
  ⟨[.text "-", .int 0], some (.memory ⟨bytes.toList⟩), none, none, none⟩

/-- The segments that there is room for in a listing of routes. -/
def listingDepth : Nat := 1000

/-- A name for a request. -/
def requestId : IO String := do
  let digits ← (List.range 8).mapM fun _ => IO.rand 0 15
  return String.ofList (digits.map Nat.digitChar)

/-- Serves the peer and ends. -/
def serve (launch : Program.Launch) : IO UInt32 := do
  let .ok (server : Server Unit) := launch.server | return 2
  let bytes ← readAll (← IO.getStdin) .empty
  let journal : Journal Unit := ⟨⟨[← requestId], [], "-"⟩, [], ()⟩
  let ((report, server), journal) :=
    (server.run listingDepth network [peer bytes] .stop).run journal
  let sent := server.connections.flatMap (·.sent)
  (← IO.getStdout).write ⟨sent.toArray⟩
  for entry in launch.shown journal.log do
    IO.eprintln entry.text
  return .ofNat (Program.Launch.exitCode (!report.result.isOk))

end HttpKit.Main

/-- Does what the command line and the environment ask for. -/
def main (words : List String) : IO UInt32 := do
  let load := HttpKit.Program.loader .standard
  let verdict := HttpKit.Program.decide load words (← HttpKit.Main.environment)
  IO.print verdict.output
  IO.eprint verdict.report
  match verdict with
  | .run launch => HttpKit.Main.serve launch
  | _ => return .ofNat (verdict.exitCode?.getD 0)
