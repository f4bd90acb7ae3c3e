import MarketQuery.FileSystem

/-!
# Buffered writing

Text for a file is gathered and passed on in larger parts. A failure comes with the text that no
longer fits, or at the end.

* `BufferedFile`: a file system, a place in it and the text not yet passed on;
* `BufferedFile.write`, `BufferedFile.writeAll`, `BufferedFile.flush`: the operations, which keep
  what was done before a failure;
* `BufferedFile.close`: the file system in the end, when what is left was tried once more.
-/

namespace MarketQuery

/-- A file that is written, with the text not yet passed on. -/
structure BufferedFile where
  system : FileSystem
  place : Location
  pending : String := ""
  /-- How many octets of the pending text were passed on before a failure. -/
  taken : Nat := 0

namespace BufferedFile

/-- How many bytes are gathered. -/
def capacity : Nat := 8192

/-- Passes on a text. -/
def pass (f : BufferedFile) (text : String) : BufferedFile × Except IoError Unit :=
  match f.system.append f.place text with
  | .ok system => ({ f with system }, .ok ())
  | .error i => ({ f with system := i.system }, .error i.cause)

/-- Passes on what is gathered. What is not taken stays. -/
def flush (f : BufferedFile) : BufferedFile × Except IoError Unit :=
  match f.system.append f.place f.pending f.taken with
  | .ok system => ({ f with system, pending := "", taken := 0 }, .ok ())
  | .error i => ({ f with system := i.system, taken := i.taken }, .error i.cause)

/-- Gathers a text, or passes it on if it is too large, when there is room for it. -/
def store (f : BufferedFile) (text : String) : BufferedFile × Except IoError Unit :=
  if capacity ≤ text.utf8ByteSize then f.pass text
  else ({ f with pending := f.pending ++ text }, .ok ())

/-- Writes a text. -/
def write (f : BufferedFile) (text : String) : BufferedFile × Except IoError Unit :=
  if f.pending.utf8ByteSize - f.taken + text.utf8ByteSize ≤ capacity then f.store text
  else
    match f.flush with
    | (f, .ok ()) => f.store text
    | failed => failed

/-- Writes texts one after another, up to the first that fails. -/
def writeAll (f : BufferedFile) : List String → BufferedFile × Except IoError Unit
  | [] => (f, .ok ())
  | text :: rest =>
    match f.write text with
    | (f, .ok ()) => f.writeAll rest
    | failed => failed

/-- The file system when the file is given up. What is left is tried once more, and nobody learns of
another failure. -/
def close (f : BufferedFile) : FileSystem := f.flush.1.system

end BufferedFile

end MarketQuery
