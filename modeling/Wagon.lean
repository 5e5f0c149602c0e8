import Wagon.Word
import Wagon.Machine
import Wagon.Memory
import Wagon.Numeric
import Wagon.Float
import Wagon.Variable
import Wagon.Call
import Wagon.Process
import Wagon.Dispatch
import Wagon.Operation
import Wagon.Pages
import Wagon.Invocation
import Wagon.Typing
import Wagon.Agree
import Wagon.Simulation
import Wagon.UpperBits
import Wagon.CallStack
import Wagon.Lifecycle
