import Tmtccmd.Python
import Tmtccmd.Unicode
import Tmtccmd.PyObject
import Tmtccmd.Tm.Service5Event
import Tmtccmd.Defaults.GlobalsSetup
import Tmtccmd.ComIf.TcpQueue
import Tmtccmd.ComIf.TcpThreads
import Tmtccmd.ComIf.TcpLock
import Tmtccmd.ComIf.TcpLifecycle
