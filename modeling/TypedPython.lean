import TypedPython.Strings
import TypedPython.Names
import TypedPython.VisitRecord
import TypedPython.Runtime
import TypedPython.Walk
import TypedPython.VisitDict
import TypedPython.Dispatch
import TypedPython.Cache
import TypedPython.Visit
import TypedPython.DictOrder
import TypedPython.View
import TypedPython.Decode
import TypedPython.Stability
