/-! # Hardware completion status

A completion status word has sixteen bits. From the least significant bit on it holds the status
code (eight bits), the status code type (three), the retry delay (two), and one bit each for more
information, for "do not retry", and reserved.
-/

namespace CommandDispatch

/-- The fields of a completion status word. -/
structure HardwareStatus where
  statusCode : Int
  statusCodeType : Int
  retryDelay : Int
  more : Int
  doNotRetry : Int
  reserved : Int
  deriving DecidableEq

namespace HardwareStatus

/-- The fields of an integer, of which the sixteen low bits count. -/
def ofWord (word : Int) : HardwareStatus where
  statusCode := word % 256
  statusCodeType := word / 256 % 8
  retryDelay := word / 2048 % 4
  more := word / 8192 % 2
  doNotRetry := word / 16384 % 2
  reserved := word / 32768 % 2

end HardwareStatus

end CommandDispatch
