import LineShell.Files.Walk

/-!
# Channels

A channel is what a descriptor of a process leads to.  Several descriptors, also of several
processes, may share one, and then they share how far it was read or written.
-/

namespace LineShell
namespace Shell

inductive Channel where
  /-- Bytes that somebody else has written, up to their end. -/
  | source (octets : List Char)
  /-- Bytes for somebody else, the last chunk first.  There may be a limit on them. -/
  | sink (chunks : List Octets) (size : Nat) (limit : Option Nat)
  /-- A file that was opened, and how far it was read or written. -/
  | file (location : Location) (offset : Nat) (reads writes appends : Bool)
  | device (device : Device)
  | directory (location : Location)
  deriving Inhabited

/-- How much a pipe takes whose reader has not begun to read: by then the reader is believed to have
gone away. -/
def pipeLimit : Nat := 2097152

/-- How many times a pipe is written to before that is believed. -/
def chunkLimit : Nat := 65536

def joinChunks (chunks : List Octets) : Octets := String.join chunks.reverse

/-- Puts bytes into other bytes at an offset.  A gap is filled with zeros. -/
def overlay (content : Octets) (offset : Nat) (text : Octets) : Octets :=
  if offset = content.length then content ++ text
  else
    let chars := content.toList
    let before := chars.take offset
    let gap := List.replicate (offset - before.length) '\x00'
    String.ofList (before ++ gap ++ text.toList ++ chars.drop (offset + text.length))

end Shell
end LineShell
