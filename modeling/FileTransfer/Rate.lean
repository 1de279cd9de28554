import FileTransfer.Decimal.Digits
import FileTransfer.Limits
import FileTransfer.Session

namespace FileTransfer

/-!
# Durations and rates as numbers
-/

/-- The nanoseconds of one second. -/
def Elapsed.nanosPerSecond : Nat := 1000000000

def Elapsed.inSeconds (elapsed : Elapsed) : Binary64 :=
  (Binary64.ofNat elapsed.seconds).add
    ((Binary64.ofNat elapsed.nanos).div (.ofNat Elapsed.nanosPerSecond))

/-- The mebibytes per second of a transfer; none if it took no time. -/
def Receipt.throughput (receipt : Receipt) : Binary64 :=
  ((Binary64.ofNat receipt.bytes).div receipt.elapsed.inSeconds).div
    (.ofNat Limits.mebibyte)

end FileTransfer
