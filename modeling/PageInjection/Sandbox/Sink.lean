/-!
# The output of a script run

What a script prints is collected in a sink.  A write that would exceed the
limit marks the sink as overflowed; from then on nothing is added.  A limit of
zero is no limit.
-/

namespace PageInjection

/-- One act of printing. -/
inductive Write where
  | echo (text : String)
  | print (line : String)
deriving DecidableEq, Repr

/-- Where output is collected. -/
structure OutputSink where
  limit : Nat
  collected : String := ""
  overflowed : Bool := false
deriving DecidableEq, Repr

namespace OutputSink

def fits (sink : OutputSink) (text : String) : Bool :=
  sink.limit == 0 || sink.collected.utf8ByteSize + text.utf8ByteSize ≤ sink.limit

def put (sink : OutputSink) (text : String) : OutputSink :=
  if sink.overflowed then sink
  else if sink.fits text then { sink with collected := sink.collected ++ text }
  else { sink with overflowed := true }

/-- Take in one act of printing; a printed line and its line break are two
pieces. -/
def write (sink : OutputSink) : Write → OutputSink
  | .echo text => sink.put text
  | .print line => (sink.put line).put "\n"

def collect (limit : Nat) (writes : List Write) : OutputSink :=
  writes.foldl write { limit }

end OutputSink

end PageInjection
