import ContestSystem.Lib.Run
import ContestSystem.Lib.Throwing
import ContestSystem.Lib.Forest
import ContestSystem.Cgroup.MountpointIndex
import ContestSystem.Cgroup.AttachWalk
import ContestSystem.Cgroup.Lifetime
import ContestSystem.Cgroup.FieldPathCache
import ContestSystem.Cgroup.CreateRollback
import ContestSystem.Cgroup.CpuSetNesting
import ContestSystem.Cgroup.TerminationSafety
import ContestSystem.Cgroup.TerminationGuard
import ContestSystem.Cgroup.ProcPidCgroup
import ContestSystem.Cgroup.FieldLookup
import ContestSystem.Cgroup.Stat
import ContestSystem.Unistd.MountEntry
import ContestSystem.Unistd.FieldEncoding
import ContestSystem.Unistd.Exec
import ContestSystem.Unistd.FileStatus
import ContestSystem.Unistd.Fstab
import ContestSystem.Unistd.DescriptorOwnership
import ContestSystem.Unistd.LibraryResidency
import ContestSystem.Unistd.Access
import ContestSystem.Execution.ErrReading
import ContestSystem.Execution.Stop
import ContestSystem.Execution.ProcessOwnership
import ContestSystem.Execution.OutputCollection
import ContestSystem.Execution.ChildFiles
import ContestSystem.Cgroup.TerminationOutcome
import ContestSystem.Cgroup.TaskAttachment
import ContestSystem.Cgroup.MultipleTrees
import ContestSystem.Execution.ChildDescriptors
import ContestSystem.Unistd.DescriptorTable
import ContestSystem.Cgroup.SystemInfoInstance
import ContestSystem.Cgroup.SharedSettings
import ContestSystem.Cgroup.ProcessGroups
import ContestSystem.Cgroup.CpuUsage
import ContestSystem.Execution.ErrPipe
import ContestSystem.Cgroup.DirectoryAccounts
