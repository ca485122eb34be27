import Folio.Feed.Publish

/-!
# The command that publishes the feed

The command takes the address of the site from its environment, writes the feed's file and prints
the log. It decides nothing: if the file cannot be written, the outcome is that of a missing folder.
-/

namespace Folio

/-- Print the log of an outcome, and give its exit code. -/
def report (outcome : Feed.Outcome) : IO UInt32 := do
  for line in outcome.log do
    IO.println line
  return outcome.exitCode.toUInt32

/-- Write a file, and tell whether that succeeded. -/
def wrote (path text : String) : IO Bool := do
  try
    IO.FS.writeFile path text
    return true
  catch _ =>
    return false

end Folio

/-- Publish the feed. -/
def main : IO UInt32 := do
  let siteUrl ← IO.getEnv "SITE_URL"
  match Folio.Feed.publish? siteUrl true with
  | none => return 101
  | some outcome =>
    match outcome.file with
    | none => Folio.report outcome
    | some text =>
      if ← Folio.wrote Folio.Feed.outputPath text then Folio.report outcome
      else
        match Folio.Feed.publish? siteUrl false with
        | none => return 101
        | some failure => Folio.report failure
