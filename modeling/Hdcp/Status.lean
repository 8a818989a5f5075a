/-
Return codes.

The functions of the daemon and of the SDK return `SUCCESS`, `ERROR` or a value of
`errno`.  Only the codes that the source names are listed.
-/
import Mathlib.Tactic.Common

namespace Hdcp

/-- The return codes of the source. -/
inductive Errno where
  | success
  | error
  | enoent
  | eio
  | eagain
  | enomem
  | eacces
  | ebusy
  | eexist
  | enodev
  | einval
  | erange
  | eproto
  | emsgsize
  | econnaborted
  | eintr
  | enotconn
  | ecanceled
deriving DecidableEq, Repr

/-- The integer that a return code stands for. -/
def Errno.code : Errno → Int
  | success => 0
  | error => -1
  | enoent => 2
  | eio => 5
  | eagain => 11
  | enomem => 12
  | eacces => 13
  | ebusy => 16
  | eexist => 17
  | enodev => 19
  | einval => 22
  | erange => 34
  | eproto => 71
  | emsgsize => 90
  | econnaborted => 103
  | eintr => 4
  | enotconn => 107
  | ecanceled => 125

/-- The conversion of a return code to `bool`, as the language does it. -/
def Errno.toBool (e : Errno) : Bool := decide (e.code ≠ 0)

end Hdcp
