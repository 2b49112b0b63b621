import FirstCall.Text.Quoted

/-!
# Settings

Where the compiler service lies, which export is the entry point, and whether blobs are dumped.
-/

namespace FirstCall

def standardService : String := "target/wasm32-unknown-unknown/debug/wjit.wasm"

def standardEntry : String := "main"

def standardDump : String := "dump_wasm"

structure Settings where
  service : String
  entry : String
  dump : Option String
  deriving DecidableEq, Repr

namespace Settings

def default : Settings := ⟨standardService, standardEntry, none⟩

def dumping (settings : Settings) (enabled : Bool) : Settings :=
  { settings with dump := if enabled then some standardDump else none }

def servedBy (settings : Settings) (path : String) : Settings :=
  { settings with service := path }

def enteredAt (settings : Settings) (name : String) : Settings :=
  { settings with entry := name }

def inspect (settings : Settings) : String :=
  Text.record "DispatcherConfig"
    [("service_path", Text.quote settings.service),
     ("entry_point", Text.quote settings.entry),
     ("dump_dir", Text.optional (settings.dump.map Text.quote))]

end Settings

end FirstCall
