import ServerBrowser.Log.Registry

/-!
# Journals

Where the lines of a log end up.  The registry decides which records are written; the handlers of
the root write them, each to a stream of its own.  Setting up puts one handler with a new stream in
the place of all that were there.
-/

namespace ServerBrowser.Log

/-- What the root hands lines to. -/
inductive Handler where
  /-- A handler that writes nothing. -/
  | silent
  /-- The handler of a stream, by its number. -/
  | stream (number : Nat)
deriving DecidableEq, Repr

/-- Write a line to the stream of a handler. -/
def Handler.write (streams : List String) (line : String) : Handler → List String
  | silent => streams
  | stream number => streams.modify number (· ++ line)

/-- The levels of loggers, the handlers of the root, and what is written so far. -/
structure Journal where
  registry : Registry := .initial
  handlers : List Handler := [.silent]
  /-- What is on each stream, the first one first. -/
  streams : List String := []

/-- One thing that is done with a log. -/
inductive Deed where
  /-- Set up anew, with a new stream: the level of the root, and the loggers set to the lowest
  level. -/
  | setUp (level : Int) (debugged : List String)
  | call (time logger : String) (level : Int) (template : String) (values : List Json)

namespace Journal

/-- Set up anew. -/
def setUp (journal : Journal) (level : Int) (debugged : List String) : Journal where
  registry := journal.registry.setup level debugged
  handlers := [.stream journal.streams.length]
  streams := journal.streams ++ [""]

/-- Hand a line to all handlers. -/
def write (journal : Journal) (line : String) : Journal :=
  { journal with
    streams := journal.handlers.foldl (fun streams handler => handler.write streams line)
      journal.streams }

/-- Do one thing with a log. -/
def perform (journal : Journal) : Deed → Journal
  | .setUp level debugged => journal.setUp level debugged
  | .call time logger level template values =>
    journal.write (journal.registry.writeCall time logger level template values)

/-- Do one thing after the other, from the beginning. -/
def performAll (deeds : List Deed) : Journal :=
  deeds.foldl perform {}

end Journal

end ServerBrowser.Log
