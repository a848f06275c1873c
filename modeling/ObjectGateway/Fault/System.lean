/-!
# Failures of disk and database

What can go wrong below a store, by cause, and the wording of each.
-/
namespace ObjectGateway

/-- A failed operation on files. -/
inductive IoError
  | notFound
  | alreadyExists
  | notADirectory
  | isADirectory
  | notEmpty
  | invalidArgument
  | nameTooLong
  /-- A name that no path can have. -/
  | nulInName
  /-- Fewer bytes than asked for. -/
  | endOfFile
  /-- A failure reported by a stream, in its own words. -/
  | custom (text : String)
deriving DecidableEq, Repr

namespace IoError

/-- The wording of a system error with its number. -/
def numbered (text : String) (code : Nat) : String :=
  text ++ " (os error " ++ toString code ++ ")"

def message : IoError → String
  | notFound => numbered "No such file or directory" 2
  | alreadyExists => numbered "File exists" 17
  | notADirectory => numbered "Not a directory" 20
  | isADirectory => numbered "Is a directory" 21
  | notEmpty => numbered "Directory not empty" 39
  | invalidArgument => numbered "Invalid argument" 22
  | nameTooLong => numbered "File name too long" 36
  | nulInName => "file name contained an unexpected NUL byte"
  | endOfFile => "early eof"
  | custom text => text

end IoError

/-- A failed statement, or none at all because the connection is gone. -/
inductive DatabaseError
  | closed
  | noSuchTable (table : String)
  | malformedJson
  | notUnique (column : String)
  | missingReference
  | notADatabase
  | cannotOpen
  | readFailed
  | lockFailed
  | locked
  | deleteFailed
  | readOnly
  /-- An unfinished change would have to be taken back first. -/
  | rollbackNeeded
  | nulInName
  | invalidAuthority (authority : String)
  | noSuchVfs (name : String)
  | noSuchCacheMode (name : String)
  | noSuchAccessMode (name : String)
  | accessNotAllowed (mode : String)
  /-- A database file that contradicts itself. -/
  | malformed
  /-- An entry of a database's schema that makes no sense. -/
  | malformedSchema (entry remark : String)
  | unsupportedFormat
  | indexExists (name : String)
  | tableExists (name : String)
  | viewNotIndexed
  | virtualNotIndexed
  | noSuchColumn (name : String)
  /-- The database answered something that makes no sense. -/
  | unexpectedData (text : String)
deriving DecidableEq, Repr

namespace DatabaseError

/-- The wording of an error that the database reports by number. -/
def coded (code : Nat) (text : String) : String :=
  "error returned from database: (code: " ++ toString code ++ ") " ++ text

def message : DatabaseError → String
  | closed => "attempted to acquire a connection on a closed pool"
  | noSuchTable table => coded 1 ("no such table: " ++ table)
  | malformedJson => coded 1 "malformed JSON"
  | notUnique column => coded 2067 ("UNIQUE constraint failed: " ++ column)
  | missingReference => coded 787 "FOREIGN KEY constraint failed"
  | notADatabase => coded 26 "file is not a database"
  | cannotOpen => coded 14 "unable to open database file"
  | readFailed => coded 266 "disk I/O error"
  | lockFailed => coded 3850 "disk I/O error"
  | locked => coded 5 "database is locked"
  | deleteFailed => coded 2570 "disk I/O error"
  | readOnly => coded 8 "attempt to write a readonly database"
  | rollbackNeeded => coded 776 "attempt to write a readonly database"
  | nulInName =>
    "error communicating with database: filename passed to SQLite must not contain nul bytes"
  | invalidAuthority authority => coded 1 ("invalid uri authority: " ++ authority)
  | noSuchVfs name => coded 1 ("no such vfs: " ++ name)
  | noSuchCacheMode name => coded 1 ("no such cache mode: " ++ name)
  | noSuchAccessMode name => coded 1 ("no such access mode: " ++ name)
  | accessNotAllowed mode => coded 3 ("access mode not allowed: " ++ mode)
  | malformed => coded 11 "database disk image is malformed"
  | malformedSchema entry remark =>
    coded 11 ("malformed database schema (" ++ entry ++ ")" ++
      if remark.isEmpty then "" else " - " ++ remark)
  | unsupportedFormat => coded 1 "unsupported file format"
  | indexExists name => coded 1 ("there is already an index named " ++ name)
  | tableExists name => coded 1 ("there is already a table named " ++ name)
  | viewNotIndexed => coded 1 "views may not be indexed"
  | virtualNotIndexed => coded 1 "virtual tables may not be indexed"
  | noSuchColumn name => coded 1 ("no such column: " ++ name)
  | unexpectedData text => "encountered unexpected or invalid data: " ++ text

end DatabaseError
end ObjectGateway
