import StructuredLog.Event
import StructuredLog.Time

set_option autoImplicit false

namespace StructuredLog

-- What loggers find around them: local time, who listens to forwarded records, and the streams.
structure Platform where
  zone : Time.Zone
  traced : Level → Bool
  refusal : Stream → Option IoFault

def Platform.standard : Platform := ⟨Time.utc, fun _ => true, fun _ => none⟩

end StructuredLog
