import Mathlib.Data.List.Basic

/-!
# The signalling server's address

`spawnSignalingServer` (part_007:25-46) starts `hc signal-srv` and listens to its standard
output. On each chunk of output that includes `SIGNALING_SERVER_STARTUP_STRING`, it reads the
server's URL as `data.toString().split(SIGNALING_SERVER_STARTUP_STRING)[1].split("\n")[0]`
and resolves its promise with the process and that URL; a chunk without the string is
logged. The promise settles at the first such chunk: later calls of `resolve` change
nothing.

A chunk is here its text, and the promise's value its URL. For a separator that is not
empty, `s.includes(sep)` holds when `sep` occurs in `s`, `s.split(sep)[0]` is the text before
its first occurrence (all of `s` when there is none), and `s.split(sep)[1]` the text between
its first and its second occurrence (or the end).
-/

set_option autoImplicit false

namespace Tryorama.Model.SignalingServer

/-- `SIGNALING_SERVER_STARTUP_STRING`. -/
def signalingServerStartupString : List Char := "HC SIGNAL SRV - ADDR: ".toList

/-- The text after the first occurrence of `sep` in `s`; `none` when `s` does not include
`sep`. -/
def afterFirst (sep : List Char) (s : List Char) : Option (List Char) :=
  if sep.isPrefixOf s then some (s.drop sep.length)
  else match s with
    | [] => none
    | _ :: cs => afterFirst sep cs

/-- `s.split(sep)[0]`: the text before the first occurrence of `sep`. -/
def beforeFirst (sep : List Char) (s : List Char) : List Char :=
  if sep.isPrefixOf s then []
  else match s with
    | [] => []
    | c :: cs => c :: beforeFirst sep cs

/-- The `data` listener on one chunk: the URL it resolves with, when the chunk includes the
startup string. -/
def serverUrl (data : List Char) : Option (List Char) :=
  (afterFirst signalingServerStartupString data).map fun rest =>
    beforeFirst ['\n'] (beforeFirst signalingServerStartupString rest)

/-- The URL `spawnSignalingServer` resolves with after the chunks of output so far, in
order: that of the first chunk that includes the startup string; `none` while the promise
is pending. -/
def spawnSignalingServer (chunks : List (List Char)) : Option (List Char) :=
  chunks.findSome? serverUrl

end Tryorama.Model.SignalingServer
