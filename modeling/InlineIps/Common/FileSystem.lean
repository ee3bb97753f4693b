import InlineIps.Library.AbsolutePath

/-!
# The file system

What `lstat` tells about the paths of a file system.
-/

namespace InlineIps

open Library

inductive FileType where
  | regular
  | directory
  | symbolicLink
  | other
  deriving DecidableEq

structure FileStat where
  type : FileType
  uid : UInt32
  mode : UInt32
  deriving DecidableEq

/-- The file at a path, links not followed. -/
abbrev FileSystem := List Char → Option FileStat

/-- `S_IWGRP | S_IWOTH`. -/
def groupOrOtherWrite : UInt32 := 0o022

/-- The path is a directory that only root can change. -/
def SecureDirectory (fs : FileSystem) (path : List Char) : Prop :=
  ∃ stat, fs path = some stat ∧ stat.type = .directory ∧ stat.uid = 0 ∧
    stat.mode &&& groupOrOtherWrite = 0

/-- Every directory from the root down to the path is one that only root can change. -/
def SecureTree (fs : FileSystem) (path : AbsolutePath) : Prop :=
  ∀ directory : AbsolutePath, directory.OnPath path → SecureDirectory fs directory.text

end InlineIps
