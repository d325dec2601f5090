/-!
# Errors of the operating system

An operation on a socket or a file fails with an error of some kind and the
text the system gives for it.  Only a few kinds are told apart.
-/

namespace Pinhole

inductive SystemError.Kind where
  | timedOut
  | connectionRefused
  | connectionReset
  | addressNotAvailable
  | networkUnreachable
  | permissionDenied
  | notFound
  | unexpectedEnd
  | other
deriving DecidableEq, Repr

structure SystemError where
  kind : SystemError.Kind
  text : String
deriving DecidableEq, Repr

namespace SystemError

/-- The system's text for an error number. -/
def numbered (kind : Kind) (description : String) (number : Nat) :
    SystemError :=
  ⟨kind, s!"{description} (os error {number})"⟩

def connectionRefused : SystemError :=
  numbered .connectionRefused "Connection refused" 111

def connectionReset : SystemError :=
  numbered .connectionReset "Connection reset by peer" 104

def addressNotAvailable : SystemError :=
  numbered .addressNotAvailable "Cannot assign requested address" 99

def networkUnreachable : SystemError :=
  numbered .networkUnreachable "Network is unreachable" 101

def notConnected : SystemError :=
  numbered .other "Transport endpoint is not connected" 107

def permissionDenied : SystemError :=
  numbered .permissionDenied "Permission denied" 13

def notFound : SystemError :=
  numbered .notFound "No such file or directory" 2

def isDirectory : SystemError :=
  numbered .other "Is a directory" 21

def notDirectory : SystemError :=
  numbered .other "Not a directory" 20

def fileExists : SystemError :=
  numbered .other "File exists" 17

def nameTooLong : SystemError :=
  numbered .other "File name too long" 36

/-- A path holds a zero character, so the system cannot be asked for it. -/
def unnameable : SystemError :=
  ⟨.other, "file name contained an unexpected NUL byte"⟩

/-- A file was to be read as text and is none. -/
def notText : SystemError :=
  ⟨.other, "stream did not contain valid UTF-8"⟩

/-- A stream ended inside a part of fixed size. -/
def unexpectedEnd : SystemError :=
  ⟨.unexpectedEnd, "early eof"⟩

end SystemError

end Pinhole
