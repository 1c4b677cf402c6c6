import Inspector.Host.CoreClasses

/-!
# A host to try things out on

A small host with one class of its own, so that clients can be developed where no other host is
at hand.
-/

namespace Inspector.InMemoryHost

/-- Puts objects on the heap one after the other, each made by `make`, and refers to them. -/
def allocateEach (make : InMemoryHost → α → ObjectRef × InMemoryHost) (host : InMemoryHost) :
    List α → List HostValue × InMemoryHost
  | [] => ([], host)
  | seed :: rest =>
    let (object, host) := make host seed
    let (others, host) := allocateEach make host rest
    (.object object :: others, host)

def demonstration : InMemoryHost :=
  let string : HostType := .cls stringClass
  let int : HostType := .primitive .int
  let double (bits : UInt64) : HostValue := .scalar (.double bits)
  let host := withCoreClasses
  let (ints, host) := host.newArray int ([1, 2, 3, 4, 5].map fun n => .scalar (.int n))
  let (boxes, host) := host.allocateEach newBoxed
    ([0x3ff8000000000000, 0x4004000000000000, 0x4010000000000000].map double)
  let (doubles, host) := host.newList "java.util.ArrayList" boxes
  let (names, host) := host.allocateEach newString ["alpha", "beta"]
  let (labels, host) := host.newArray string names
  let host := host.define "demo.Sample" fun sample => sample
    |>.withStaticField "intArray" (.array int) (.object ints)
    |>.withStaticField "doubleList" (.cls "java.util.List") (.object doubles)
    |>.withStaticField "stringArray" (.array string) (.object labels)
    |>.withStaticField "ratio" (.primitive .double) (double 0x3fe8000000000000)
    |>.withField "count" int
    |>.withField "label" string
    |>.withMethod "resize" [int, int] .void
    |>.withMethod "rename" [string] .void
  host.addThread { name := "agent", daemon := true, stackTrace := "" }

end Inspector.InMemoryHost
