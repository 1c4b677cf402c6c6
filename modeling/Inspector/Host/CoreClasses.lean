import Inspector.Host.InMemory

/-!
# The platform's own classes

A host that has the root class, strings, wrapped primitives and the lists, and one thread.
-/

namespace Inspector.InMemoryHost

def withCoreClasses : InMemoryHost :=
  let interface (host : InMemoryHost) (name : String) (parents : List String) : InMemoryHost :=
    host.define name fun c => parents.foldl ClassDef.implementing c.asInterface
  let cls (host : InMemoryHost) (name parent : String) (parents : List String) : InMemoryHost :=
    host.define name fun c => parents.foldl ClassDef.implementing (c.extending parent)
  let host := empty.define objectClass id
  let host := interface host "java.io.Serializable" []
  let host := interface host "java.lang.Cloneable" []
  let host := interface host "java.lang.CharSequence" []
  let host := interface host "java.lang.Comparable" []
  let host := cls host stringClass objectClass
    ["java.io.Serializable", "java.lang.CharSequence", "java.lang.Comparable"]
  let host := cls host "java.lang.Number" objectClass ["java.io.Serializable"]
  let host := ["Byte", "Short", "Integer", "Long", "Float", "Double"].foldl (fun host name =>
    cls host ("java.lang." ++ name) "java.lang.Number" ["java.lang.Comparable"]) host
  let host := ["Character", "Boolean"].foldl (fun host name =>
    cls host ("java.lang." ++ name) objectClass
      ["java.io.Serializable", "java.lang.Comparable"]) host
  let host := interface host "java.lang.Iterable" []
  let host := interface host "java.util.Collection" ["java.lang.Iterable"]
  let host := interface host "java.util.List" ["java.util.Collection"]
  let host := cls host "java.util.AbstractCollection" objectClass ["java.util.Collection"]
  let host := cls host "java.util.AbstractList" "java.util.AbstractCollection" ["java.util.List"]
  let host := cls host "java.util.ArrayList" "java.util.AbstractList"
    ["java.lang.Cloneable", "java.io.Serializable"]
  let host := interface host "java.util.Set" ["java.util.Collection"]
  let host := cls host "java.util.HashSet" "java.util.AbstractCollection" ["java.util.Set"]
  host.addThread
    { name := "main", daemon := false, stackTrace := "at android.os.Looper.loop(Looper.java)" }

end Inspector.InMemoryHost
