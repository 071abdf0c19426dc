import ImageGraph.Service.Basic

/-!
How the client fails, and what the engine makes of it.
-/

namespace ImageGraph.Client

/-- Why a text is no image. -/
inductive ImageFault where
  | noPayload
  | notBase64Url
  /-- The decoder of base64 refuses this payload. -/
  | badBase64 (payload : String)
  | empty
  deriving Repr, DecidableEq

/-- The message of a fault, with what the decoder says of a payload. -/
def ImageFault.message (decoderFault : String → String) : ImageFault → String
  | noPayload => "data URL without payload"
  | notBase64Url => "only base64 data URLs are supported"
  | badBase64 payload => "Invalid base64: " ++ decoderFault payload
  | empty => "empty image"

/-- Why settings cannot be used. -/
inductive SettingsFault where
  | blankBaseUrl
  | zeroTimeout
  /-- The timeout variable is set to something else than a number of seconds. -/
  | badTimeout (text : String)
  deriving Repr, DecidableEq

def SettingsFault.message : SettingsFault → String
  | blankBaseUrl => "baseUrl must not be empty"
  | zeroTimeout => "timeoutSecs must be positive"
  | badTimeout text => "GENERATION_TIMEOUT_SECS must be a number of seconds, got '" ++ text ++ "'"

inductive ClientError where
  /-- The request got no response, or was not made. -/
  | http (reason : String)
  | status (code : UInt16) (body : String)
  | decode (reason : String)
  | invalidImage (reason : String)
  | config (fault : SettingsFault)
  deriving Repr, DecidableEq

namespace ClientError

def message : ClientError → String
  | http reason => "HTTP error: " ++ reason
  | status code body => "Service returned " ++ toString code.toNat ++ ": " ++ body
  | decode reason => "Failed to decode response: " ++ reason
  | invalidImage reason => "Invalid image data: " ++ reason
  | config fault => "Configuration error: " ++ fault.message

/-- A response that was understood as far as its status keeps its kind; all else counts as
transport. -/
def toServiceError : ClientError → ServiceError
  | status code body => .status code body
  | decode reason => .invalidResponse reason
  | e => .transport e.message

end ClientError

end ImageGraph.Client
