/-!
# Input and output errors

Why a file or a stream cannot be read or written, in the words of the operating
system where there are any.
-/

namespace Whirlwind

/-- Why reading or writing fails. -/
inductive IoError where
  | notFound
  | isDirectory
  | notDirectory
  | nameTooLong
  | tooManyLinks
  /-- There is no room for more bytes in files. -/
  | noSpace
  /-- A name has a zero byte in it. -/
  | zeroInName
  | notText
  /-- A sink has taken all that it takes. -/
  | full
  | other (message : String)
  deriving DecidableEq, Repr

/-- The text of an error. -/
def IoError.message : IoError → String
  | .notFound => "No such file or directory (os error 2)"
  | .isDirectory => "Is a directory (os error 21)"
  | .notDirectory => "Not a directory (os error 20)"
  | .nameTooLong => "File name too long (os error 36)"
  | .tooManyLinks => "Too many levels of symbolic links (os error 40)"
  | .noSpace => "No space left on device (os error 28)"
  | .zeroInName => "file name contained an unexpected NUL byte"
  | .notText => "stream did not contain valid UTF-8"
  | .full => "write limit reached"
  | .other message => message

end Whirlwind
