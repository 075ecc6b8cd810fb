/-
# Chip8.Failure — everything that can end an operation early

A failure is a fault of the guest program, a refused argument, an unusable
program image, a reason why the frontend cannot start or go on, a template that cannot be
filled, a file that cannot be had, or one of a few accidents that have no wording
of their own.
-/
import Chip8.Image
import Chip8.Instruction.Template
import Chip8.Path

namespace Chip8

set_option autoImplicit false

/-- Why the window or its sound cannot be had. -/
inductive FrontendError where
  | windowMissing
  | imageNotGiven
  | imageNotFound (path : String)
  | imageRejected (path : String) (reason : ImageError)
  | soundMissing
  | mixerClosed
  /-- An error of the window system or of its sound, in their words. -/
  | raised (text : String)
  deriving DecidableEq, Repr

namespace FrontendError

def message : FrontendError → String
  | .windowMissing => "pygame is required to run the UI"
  | .imageNotGiven => "ROM image is required; pass --rom <path>"
  | .imageNotFound path => "ROM file not found: " ++ path
  | .imageRejected path reason => "Failed to load ROM " ++ path ++ ": " ++ reason.message
  | .soundMissing => "pygame is required for audio output"
  | .mixerClosed => "pygame mixer must be initialised before creating SquareWaveBeeper"
  | .raised text => text

end FrontendError

/-- Why an operation ended early. -/
inductive Failure where
  | fault (fault : Fault)
  | refusal (reason : Refusal)
  | image (error : ImageError)
  | frontend (error : FrontendError)
  | template (error : TemplateError)
  | file (error : FileError)
  /-- A lit byte of a picture that is less than a byte wide. -/
  | narrowPicture
  /-- A number without bound where a whole number is needed. -/
  | unboundedNumber
  /-- The path of the program was left empty on the command line. -/
  | emptyPath
  /-- Another option was left empty on the command line. -/
  | emptyOption
  /-- A call on the host raised something that the frontend does not report. -/
  | host
  deriving DecidableEq, Repr

end Chip8
