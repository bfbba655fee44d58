/-!
# Error numbers

The numbers by which the system says why a call failed. Each has a symbol and a description; every
number that has no meaning of its own is the unknown one, which is 0. All of them fit into one byte,
so an error number can be an exit status.
-/

set_option autoImplicit false

namespace CommandShell

structure Errno where
  index : Fin 134
  deriving DecidableEq, Repr

namespace Errno

def table : Array (String × String) := #[
  ("UnknownErrno", "Unknown errno"),
  ("EPERM", "Operation not permitted"),
  ("ENOENT", "No such file or directory"),
  ("ESRCH", "No such process"),
  ("EINTR", "Interrupted system call"),
  ("EIO", "I/O error"),
  ("ENXIO", "No such device or address"),
  ("E2BIG", "Argument list too long"),
  ("ENOEXEC", "Exec format error"),
  ("EBADF", "Bad file number"),
  ("ECHILD", "No child processes"),
  ("EAGAIN", "Try again"),
  ("ENOMEM", "Out of memory"),
  ("EACCES", "Permission denied"),
  ("EFAULT", "Bad address"),
  ("ENOTBLK", "Block device required"),
  ("EBUSY", "Device or resource busy"),
  ("EEXIST", "File exists"),
  ("EXDEV", "Cross-device link"),
  ("ENODEV", "No such device"),
  ("ENOTDIR", "Not a directory"),
  ("EISDIR", "Is a directory"),
  ("EINVAL", "Invalid argument"),
  ("ENFILE", "File table overflow"),
  ("EMFILE", "Too many open files"),
  ("ENOTTY", "Not a typewriter"),
  ("ETXTBSY", "Text file busy"),
  ("EFBIG", "File too large"),
  ("ENOSPC", "No space left on device"),
  ("ESPIPE", "Illegal seek"),
  ("EROFS", "Read-only file system"),
  ("EMLINK", "Too many links"),
  ("EPIPE", "Broken pipe"),
  ("EDOM", "Math argument out of domain of func"),
  ("ERANGE", "Math result not representable"),
  ("EDEADLK", "Resource deadlock would occur"),
  ("ENAMETOOLONG", "File name too long"),
  ("ENOLCK", "No record locks available"),
  ("ENOSYS", "Function not implemented"),
  ("ENOTEMPTY", "Directory not empty"),
  ("ELOOP", "Too many symbolic links encountered"),
  ("UnknownErrno", "Unknown errno"),
  ("ENOMSG", "No message of desired type"),
  ("EIDRM", "Identifier removed"),
  ("ECHRNG", "Channel number out of range"),
  ("EL2NSYNC", "Level 2 not synchronized"),
  ("EL3HLT", "Level 3 halted"),
  ("EL3RST", "Level 3 reset"),
  ("ELNRNG", "Link number out of range"),
  ("EUNATCH", "Protocol driver not attached"),
  ("ENOCSI", "No CSI structure available"),
  ("EL2HLT", "Level 2 halted"),
  ("EBADE", "Invalid exchange"),
  ("EBADR", "Invalid request descriptor"),
  ("EXFULL", "Exchange full"),
  ("ENOANO", "No anode"),
  ("EBADRQC", "Invalid request code"),
  ("EBADSLT", "Invalid slot"),
  ("UnknownErrno", "Unknown errno"),
  ("EBFONT", "Bad font file format"),
  ("ENOSTR", "Device not a stream"),
  ("ENODATA", "No data available"),
  ("ETIME", "Timer expired"),
  ("ENOSR", "Out of streams resources"),
  ("ENONET", "Machine is not on the network"),
  ("ENOPKG", "Package not installed"),
  ("EREMOTE", "Object is remote"),
  ("ENOLINK", "Link has been severed"),
  ("EADV", "Advertise error"),
  ("ESRMNT", "Srmount error"),
  ("ECOMM", "Communication error on send"),
  ("EPROTO", "Protocol error"),
  ("EMULTIHOP", "Multihop attempted"),
  ("EDOTDOT", "RFS specific error"),
  ("EBADMSG", "Not a data message"),
  ("EOVERFLOW", "Value too large for defined data type"),
  ("ENOTUNIQ", "Name not unique on network"),
  ("EBADFD", "File descriptor in bad state"),
  ("EREMCHG", "Remote address changed"),
  ("ELIBACC", "Can not access a needed shared library"),
  ("ELIBBAD", "Accessing a corrupted shared library"),
  ("ELIBSCN", ".lib section in a.out corrupted"),
  ("ELIBMAX", "Attempting to link in too many shared libraries"),
  ("ELIBEXEC", "Cannot exec a shared library directly"),
  ("EILSEQ", "Illegal byte sequence"),
  ("ERESTART", "Interrupted system call should be restarted"),
  ("ESTRPIPE", "Streams pipe error"),
  ("EUSERS", "Too many users"),
  ("ENOTSOCK", "Socket operation on non-socket"),
  ("EDESTADDRREQ", "Destination address required"),
  ("EMSGSIZE", "Message too long"),
  ("EPROTOTYPE", "Protocol wrong type for socket"),
  ("ENOPROTOOPT", "Protocol not available"),
  ("EPROTONOSUPPORT", "Protocol not supported"),
  ("ESOCKTNOSUPPORT", "Socket type not supported"),
  ("EOPNOTSUPP", "Operation not supported on transport endpoint"),
  ("EPFNOSUPPORT", "Protocol family not supported"),
  ("EAFNOSUPPORT", "Address family not supported by protocol"),
  ("EADDRINUSE", "Address already in use"),
  ("EADDRNOTAVAIL", "Cannot assign requested address"),
  ("ENETDOWN", "Network is down"),
  ("ENETUNREACH", "Network is unreachable"),
  ("ENETRESET", "Network dropped connection because of reset"),
  ("ECONNABORTED", "Software caused connection abort"),
  ("ECONNRESET", "Connection reset by peer"),
  ("ENOBUFS", "No buffer space available"),
  ("EISCONN", "Transport endpoint is already connected"),
  ("ENOTCONN", "Transport endpoint is not connected"),
  ("ESHUTDOWN", "Cannot send after transport endpoint shutdown"),
  ("ETOOMANYREFS", "Too many references: cannot splice"),
  ("ETIMEDOUT", "Connection timed out"),
  ("ECONNREFUSED", "Connection refused"),
  ("EHOSTDOWN", "Host is down"),
  ("EHOSTUNREACH", "No route to host"),
  ("EALREADY", "Operation already in progress"),
  ("EINPROGRESS", "Operation now in progress"),
  ("ESTALE", "Stale file handle"),
  ("EUCLEAN", "Structure needs cleaning"),
  ("ENOTNAM", "Not a XENIX named type file"),
  ("ENAVAIL", "No XENIX semaphores available"),
  ("EISNAM", "Is a named type file"),
  ("EREMOTEIO", "Remote I/O error"),
  ("EDQUOT", "Quota exceeded"),
  ("ENOMEDIUM", "No medium found"),
  ("EMEDIUMTYPE", "Wrong medium type"),
  ("ECANCELED", "Operation canceled"),
  ("ENOKEY", "Required key not available"),
  ("EKEYEXPIRED", "Key has expired"),
  ("EKEYREVOKED", "Key has been revoked"),
  ("EKEYREJECTED", "Key was rejected by service"),
  ("EOWNERDEAD", "Owner died"),
  ("ENOTRECOVERABLE", "State not recoverable"),
  ("ERFKILL", "Operation not possible due to RF-kill"),
  ("EHWPOISON", "Memory page has hardware error")]

def unknown : Errno := ⟨0⟩
def noSuchFile : Errno := ⟨2⟩
def noSuchProcess : Errno := ⟨3⟩
def interrupted : Errno := ⟨4⟩
def noDevice : Errno := ⟨6⟩
def argumentsTooLong : Errno := ⟨7⟩
def notExecutable : Errno := ⟨8⟩
def badDescriptor : Errno := ⟨9⟩
def noChild : Errno := ⟨10⟩
def accessDenied : Errno := ⟨13⟩
def alreadyExists : Errno := ⟨17⟩
def notDirectory : Errno := ⟨20⟩
def isDirectory : Errno := ⟨21⟩
def invalidArgument : Errno := ⟨22⟩
def tooManyOpen : Errno := ⟨24⟩
def noSpace : Errno := ⟨28⟩
def brokenPipe : Errno := ⟨32⟩
def nameTooLong : Errno := ⟨36⟩
def notEmpty : Errno := ⟨39⟩
def tooManyLinks : Errno := ⟨40⟩

def unassigned : List Nat := [0, 41, 58]

def ofNumber (n : Int) : Errno :=
  if h : 0 ≤ n ∧ n < 134 ∧ n.toNat ∉ unassigned then ⟨⟨n.toNat, by omega⟩⟩ else unknown

def number (e : Errno) : Nat := e.index

def symbol (e : Errno) : String := (table.getD e.number ("UnknownErrno", "Unknown errno")).1

def description (e : Errno) : String := (table.getD e.number ("UnknownErrno", "Unknown errno")).2

def text (e : Errno) : String := e.symbol ++ ": " ++ e.description

/-- The wording of the programs that the system itself brings, where it is not the description. -/
def ownWording : List (Nat × String) :=
  [(5, "Input/output error"), (9, "Bad file descriptor"),
    (11, "Resource temporarily unavailable"), (12, "Cannot allocate memory"),
    (18, "Invalid cross-device link"), (23, "Too many open files in system"),
    (25, "Inappropriate ioctl for device"), (33, "Numerical argument out of domain"),
    (34, "Numerical result out of range"), (35, "Resource deadlock avoided"),
    (37, "No locks available"), (40, "Too many levels of symbolic links"), (74, "Bad message"),
    (84, "Invalid or incomplete multibyte or wide character"), (95, "Operation not supported"),
    (102, "Network dropped connection on reset"), (122, "Disk quota exceeded")]

def systemText (e : Errno) : String := (ownWording.lookup e.number).getD e.description

theorem number_lt (e : Errno) : e.number < 256 := by
  have := e.index.isLt
  simp only [number]
  omega

end Errno

end CommandShell
