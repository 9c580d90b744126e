import BulkTransfer.Config.Document
import BulkTransfer.Digest.Blake3
/-!
# Run ids

A run is named after its config, so that the same config has the same run id.
-/
namespace BulkTransfer

def runId (config : Config) : String :=
  "run-" ++ ((Blake3.hex (Utf8.encode config.text)).take 16).toString

end BulkTransfer
