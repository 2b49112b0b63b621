import FirstCall.FileTree
import FirstCall.FuncId

/-!
# Dumped blobs

Copies of the blobs that the compiler service hands out, in a directory that must exist. The
skeleton and every function have a file of their own.
-/

namespace FirstCall

structure DumpDir where
  dir : String
  deriving DecidableEq, Repr

namespace DumpDir

def skeletonFile : String := "skeleton.wasm"

def unitFile (i : FuncId) : String := i.decimal ++ ".wasm"

def pathOfSkeleton (dump : DumpDir) : String := Path.join dump.dir skeletonFile

def pathOfUnit (dump : DumpDir) (i : FuncId) : String := Path.join dump.dir (unitFile i)

def inspect (dump : DumpDir) : String :=
  Text.record "ArtifactDump" [("dir", Text.quote dump.dir)]

end DumpDir

end FirstCall
